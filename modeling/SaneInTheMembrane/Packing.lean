import Mathlib.Data.List.Basic

/-!
Greedy packing of a chunked stream. Chunks are collected until their total
reaches a limit and leave as one packet; what stays below the limit at the end
is the remainder. Nothing is lost, repeated or reordered.
-/

namespace SaneInTheMembrane.Packing
variable {Item : Type} {limit : Nat}

def pack (limit : Nat) : List Item → List (List Item) → List (List Item) × List Item
  | held, [] => ([], held)
  | held, chunk :: rest =>
      if limit ≤ (held ++ chunk).length then
        ((held ++ chunk) :: (pack limit [] rest).1, (pack limit [] rest).2)
      else
        pack limit (held ++ chunk) rest

@[simp] theorem pack_nil (held : List Item) : pack limit held [] = ([], held) := rfl

theorem pack_full (held chunk : List Item) (rest : List (List Item))
    (full : limit ≤ (held ++ chunk).length) :
    pack limit held (chunk :: rest) =
      ((held ++ chunk) :: (pack limit [] rest).1, (pack limit [] rest).2) := by
  rw [pack, if_pos full]

theorem pack_below (held chunk : List Item) (rest : List (List Item))
    (below : ¬ limit ≤ (held ++ chunk).length) :
    pack limit held (chunk :: rest) = pack limit (held ++ chunk) rest := by
  rw [pack, if_neg below]

theorem pack_flatten (held : List Item) (chunks : List (List Item)) :
    (pack limit held chunks).1.flatten ++ (pack limit held chunks).2 =
      held ++ chunks.flatten := by
  induction chunks generalizing held with
  | nil => simp
  | cons chunk rest ih =>
      by_cases full : limit ≤ (held ++ chunk).length
      · rw [pack_full held chunk rest full]
        have tail := ih []
        simp only [List.nil_append] at tail
        simp [List.append_assoc, tail]
      · rw [pack_below held chunk rest full, ih]
        simp

theorem packets_initial (held : List Item) (chunks : List (List Item)) :
    (pack limit held chunks).1.flatten <+: held ++ chunks.flatten :=
  ⟨(pack limit held chunks).2, pack_flatten held chunks⟩

theorem remainder_below (held : List Item) (chunks : List (List Item))
    (below : held.length < limit) : (pack limit held chunks).2.length < limit := by
  induction chunks generalizing held with
  | nil => simpa using below
  | cons chunk rest ih =>
      by_cases full : limit ≤ (held ++ chunk).length
      · rw [pack_full held chunk rest full]
        exact ih [] (by simp only [List.length_nil]; omega)
      · rw [pack_below held chunk rest full]
        exact ih _ (by omega)

/-- A packet reaches the limit and passes it by less than one chunk. -/
theorem packet_length {largest : Nat} (held : List Item) (chunks : List (List Item))
    (below : held.length < limit) (bounded : ∀ chunk ∈ chunks, chunk.length ≤ largest) :
    ∀ packet ∈ (pack limit held chunks).1,
      limit ≤ packet.length ∧ packet.length < limit + largest := by
  induction chunks generalizing held with
  | nil => simp
  | cons chunk rest ih =>
      have small := bounded chunk List.mem_cons_self
      have others : ∀ other ∈ rest, other.length ≤ largest :=
        fun other member => bounded other (List.mem_cons_of_mem _ member)
      by_cases full : limit ≤ (held ++ chunk).length
      · rw [pack_full held chunk rest full]
        intro packet member
        rcases List.mem_cons.mp member with rfl | later
        · refine ⟨full, ?_⟩
          rw [List.length_append]
          omega
        · exact ih [] (by simp only [List.length_nil]; omega) others packet later
      · rw [pack_below held chunk rest full]
        exact ih _ (by omega) others

end SaneInTheMembrane.Packing

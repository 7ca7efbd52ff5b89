import Mathlib.Data.List.Basic
import SaneInTheMembrane.LittleEndian

/-!
A stream of byte records, each preceded by its length as a word of a fixed
width. A stream cut short consists of whole frames followed by a proper prefix
of the next frame.
-/

namespace SaneInTheMembrane.LengthFraming

open LittleEndian
variable {width : Nat}

def frame (width : Nat) (body : List UInt8) : List UInt8 :=
  encode width body.length ++ body

def stream (width : Nat) (bodies : List (List UInt8)) : List UInt8 :=
  bodies.flatMap (frame width)

@[simp] theorem frame_length (body : List UInt8) :
    (frame width body).length = width + body.length := by
  simp [frame]

@[simp] theorem stream_nil : stream width [] = [] := rfl

@[simp] theorem stream_cons (body : List UInt8) (rest : List (List UInt8)) :
    stream width (body :: rest) = frame width body ++ stream width rest := by
  simp [stream]

theorem stream_append (front back : List (List UInt8)) :
    stream width (front ++ back) = stream width front ++ stream width back := by
  simp [stream]

theorem stream_take_le (width : Nat) (bodies : List (List UInt8)) (count : Nat) :
    (stream width (bodies.take count)).length ≤ (stream width bodies).length := by
  conv => rhs; rw [← List.take_append_drop count bodies, stream_append]
  simp

theorem stream_take_mono (width : Nat) (bodies : List (List UInt8)) (fewer more : Nat)
    (le : fewer ≤ more) :
    (stream width (bodies.take fewer)).length ≤ (stream width (bodies.take more)).length := by
  have front := stream_take_le width (bodies.take more) fewer
  rwa [List.take_take, Nat.min_eq_left le] at front

theorem stream_take_succ (width count : Nat) (bodies : List (List UInt8)) (body : List UInt8)
    (rest : List (List UInt8)) (split : bodies = bodies.take count ++ body :: rest) :
    count < bodies.length ∧ (stream width (bodies.take (count + 1))).length =
      (stream width (bodies.take count)).length + (frame width body).length := by
  have total := congrArg List.length split
  simp only [List.length_append, List.length_take, List.length_cons] at total
  have inside : count < bodies.length := by omega
  have found : bodies[count] = body := by
    have at_count : bodies[count]? = some body := by
      rw [split, List.getElem?_append_right (by simp)]
      simp [Nat.min_eq_left (Nat.le_of_lt inside)]
    simpa [inside] using at_count
  refine ⟨inside, ?_⟩
  rw [List.take_add_one, List.getElem?_eq_getElem inside, found, stream_append]
  simp

/-- The cut lies inside a record, behind its whole length word. -/
def InsideBody (width : Nat) (bodies : List (List UInt8)) (cut : Nat) : Prop :=
  ∃ count < bodies.length, (stream width (bodies.take count)).length + width ≤ cut ∧
    cut < (stream width (bodies.take (count + 1))).length

theorem not_insideBody_of_boundary (bodies : List (List UInt8)) (count cut : Nat)
    (positive : 0 < width) (place : cut = (stream width (bodies.take count)).length) :
    ¬ InsideBody width bodies cut := by
  rintro ⟨other, _, low, high⟩
  rcases Nat.lt_or_ge other count with before | behind
  · have := stream_take_mono width bodies (other + 1) count before
    omega
  · have := stream_take_mono width bodies count other behind
    omega

theorem insideBody_iff (bodies : List (List UInt8)) (count part cut : Nat) (body : List UInt8)
    (rest : List (List UInt8)) (split : bodies = bodies.take count ++ body :: rest)
    (positive : 0 < part) (proper : part < (frame width body).length)
    (place : cut = (stream width (bodies.take count)).length + part) :
    InsideBody width bodies cut ↔ width ≤ part := by
  obtain ⟨inside, next⟩ := stream_take_succ width count bodies body rest split
  constructor
  · rintro ⟨other, _, low, high⟩
    -- The records before and behind the one that is cut lie on either side of the cut.
    rcases Nat.lt_trichotomy other count with before | same | behind
    · have := stream_take_mono width bodies (other + 1) count before
      omega
    · subst same
      omega
    · have := stream_take_mono width bodies (count + 1) other behind
      omega
  · intro whole
    exact ⟨count, inside, by omega, by omega⟩

theorem stream_length_ge (width : Nat) (bodies : List (List UInt8)) :
    width * bodies.length ≤ (stream width bodies).length := by
  induction bodies with
  | nil => simp
  | cons body rest ih =>
      simp only [stream_cons, List.length_append, frame_length, List.length_cons]
      rw [Nat.mul_succ]
      omega

/-- What is left of a stream after a cut: whole frames, then nothing or a
nonempty proper prefix of the next frame. -/
theorem stream_cut (bodies : List (List UInt8)) (cut : Nat)
    (inside : cut ≤ (stream width bodies).length) :
    (∃ count ≤ bodies.length, cut = (stream width (bodies.take count)).length ∧
      (stream width bodies).take cut = stream width (bodies.take count)) ∨
    ∃ count body rest part, bodies = bodies.take count ++ body :: rest ∧
      0 < part ∧ part < (frame width body).length ∧
      cut = (stream width (bodies.take count)).length + part ∧
      (stream width bodies).take cut =
        stream width (bodies.take count) ++ (frame width body).take part := by
  induction bodies generalizing cut with
  | nil =>
      left
      exact ⟨0, Nat.le_refl _, by simpa using inside, by simp⟩
  | cons body rest ih =>
      -- The cut lies inside the first frame, or it cuts the frames behind it.
      by_cases short : cut < (frame width body).length
      · by_cases empty : cut = 0
        · left
          exact ⟨0, Nat.zero_le _, by simpa using empty, by simp [empty]⟩
        · right
          refine ⟨0, body, rest, cut, by simp, by omega, short, by simp, ?_⟩
          simp [List.take_append_of_le_length (Nat.le_of_lt short)]
      · have later : cut - (frame width body).length ≤ (stream width rest).length := by
          simp only [stream_cons, List.length_append] at inside
          omega
        have whole : (stream width (body :: rest)).take cut = frame width body ++
            (stream width rest).take (cut - (frame width body).length) := by
          rw [stream_cons, List.take_append]
          rw [List.take_of_length_le (by omega)]
        rcases ih _ later with ⟨count, within, place, taken⟩ | found
        · left
          refine ⟨count + 1, by simpa using within, ?_, ?_⟩
          · simp only [List.take_succ_cons, stream_cons, List.length_append]
            omega
          · rw [whole, taken]
            simp
        · right
          obtain ⟨count, next, others, part, parts, positive, proper, place, taken⟩ := found
          refine ⟨count + 1, next, others, part, ?_, positive, proper, ?_, ?_⟩
          · simpa using parts
          · simp only [List.take_succ_cons, stream_cons, List.length_append]
            omega
          · rw [whole, taken]
            simp

end SaneInTheMembrane.LengthFraming

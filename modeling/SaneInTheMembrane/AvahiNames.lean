import Mathlib.Algebra.Group.Nat.Defs
import SaneInTheMembrane.Decimal
import SaneInTheMembrane.Runs

/-!
mDns/AvahiServiceRegistration.hpp: the names of a `CAvahiService`. A collision the
entry group reports in its callback changes the name. One that `add_service`
answers does not: `create_service` calls itself and adds the same name again,
until its counter, shared by all services, stops it.
-/

namespace SaneInTheMembrane.AvahiNames

section Model

def baseServiceName : String := "sane_in_the_membrane_service"

/-- The answer of `avahi_entry_group_add_service`, and of the commit behind it. -/
inductive AddAnswer where
  | added (committed : Bool)
  | collision
  | failed
  deriving DecidableEq, Repr

inductive AvahiClientState where
  | registering | running | collision | failure | connecting
  deriving DecidableEq, Repr

inductive AvahiEntryGroupState where
  | uncommited | registering | established | collision | failure
  deriving DecidableEq, Repr

/-- What the service asked for and was told about its names. A collision of the
client is one of the host name; the service has this name meanwhile. -/
inductive Entry where
  | added (name : String)
  | collided (name : String)
  | hostCollided (name : String)
  deriving DecidableEq, Repr

/-- `group` is the number of services in the entry group, `none` for the null
pointer. The log has the newest entry first, and `renamed` counts the calls of
`alternative_service_name`. -/
structure CAvahiService where
  collisionCount : Nat := 0
  group : Option Nat := none
  serviceName : String := baseServiceName
  serviceCount : UInt64 := 0
  toldToQuit : Bool := false
  log : List Entry := []
  renamed : Nat := 0
  deriving DecidableEq, Repr

def initial (collisionCount : Nat) : CAvahiService := { collisionCount }

namespace CAvahiService

def collide (service : CAvahiService) : CAvahiService :=
  { service with
    collisionCount := service.collisionCount + 1
    group := some 0
    log := .collided service.serviceName :: .added service.serviceName :: service.log }

/-- The answers come by the number of the call of `add_service` in this callback. -/
def createService (service : CAvahiService) (answers : Nat → AddAnswer) (call : Nat) :
    CAvahiService :=
  if 5 < service.collisionCount then { service with collisionCount := 0 }
  else
    let group := service.group.getD 0
    if group = 0 then
      let log := .added service.serviceName :: service.log
      match answers call with
      | .collision => createService service.collide answers (call + 1)
      | .failed => { service with group := some 0, log, toldToQuit := true }
      | .added committed =>
          { service with group := some 1, log, toldToQuit := service.toldToQuit || !committed }
    else { service with group := some group }
termination_by 6 - service.collisionCount
decreasing_by simp only [collide]; omega

def alternativeServiceName (service : CAvahiService) : CAvahiService :=
  let serviceCount := service.serviceCount + 1
  { service with
    serviceCount
    serviceName := baseServiceName ++ " #" ++ toString serviceCount.toNat
    renamed := service.renamed + 1 }

def clientCallback (service : CAvahiService) (state : AvahiClientState)
    (answers : Nat → AddAnswer) : CAvahiService :=
  match state with
  | .running => service.createService answers 0
  | .collision =>
      { service with
        group := service.group.map fun _ => 0
        log := .hostCollided service.serviceName :: service.log }
  | .registering => { service with group := service.group.map fun _ => 0 }
  | .failure => { service with toldToQuit := true }
  | .connecting => service

def groupCallback (service : CAvahiService) (state : AvahiEntryGroupState)
    (answers : Nat → AddAnswer) : CAvahiService :=
  let service := { service with group := some (service.group.getD 0) }
  match state with
  | .established => service
  | .collision =>
      let service := { service with log := .collided service.serviceName :: service.log }
      createService { alternativeServiceName service with group := some 0 } answers 0
  | .failure => { service with toldToQuit := true }
  | .uncommited | .registering => service

end CAvahiService

inductive Label where
  | client (state : AvahiClientState) (answers : Nat → AddAnswer)
  | group (state : AvahiEntryGroupState) (answers : Nat → AddAnswer)

def step (service : CAvahiService) : Label → Except Empty CAvahiService
  | .client state answers => .ok (service.clientCallback state answers)
  | .group state answers => .ok (service.groupCallback state answers)

/-- The entry reports a collision of the name; a collision of the host name may count
against the name that the service had. -/
def Entry.Reports (hostToo : Bool) (name : String) : Entry → Prop
  | .added _ => False
  | .collided other => other = name
  | .hostCollided other => hostToo = true ∧ other = name

def Reported (hostToo : Bool) (name : String) (log : List Entry) : Prop :=
  ∃ entry ∈ log, entry.Reports hostToo name

/-- Each call of `add_service` passes a name of which no collision was reported. -/
def Fresh (hostToo : Bool) : List Entry → Prop
  | [] => True
  | .added name :: earlier => ¬ Reported hostToo name earlier ∧ Fresh hostToo earlier
  | .collided _ :: earlier | .hostCollided _ :: earlier => Fresh hostToo earlier

def CAvahiService.Adds (service : CAvahiService) : Prop :=
  service.collisionCount ≤ 5 ∧ service.group.getD 0 = 0

/-- A client comes up with a free group only while no collision of the name was reported,
a group collision is one of the first 2^64, and `add_service` answers a collision only
when the counter allows no retry. -/
def Renames (hostToo : Bool) (service : CAvahiService) : Label → Prop
  | .client .running answers => service.Adds →
      ¬ Reported hostToo service.serviceName service.log ∧
        (answers 0 = .collision → service.collisionCount = 5)
  | .group .collision answers => service.collisionCount ≤ 5 →
      service.renamed < 2 ^ 64 ∧ (answers 0 = .collision → service.collisionCount = 5)
  | .client _ _ | .group _ _ => True

end Model

section Lists
variable {hostToo : Bool} {name : String}

@[simp] theorem reported_nil : ¬ Reported hostToo name [] := by
  simp [Reported]

@[simp] theorem reported_cons (entry : Entry) (log : List Entry) :
    Reported hostToo name (entry :: log) ↔
      entry.Reports hostToo name ∨ Reported hostToo name log := by
  simp [Reported]

theorem fresh_of_append (more log : List Entry) (fresh : Fresh hostToo (more ++ log)) :
    Fresh hostToo log := by
  induction more with
  | nil => exact fresh
  | cons entry rest ih =>
      cases entry with
      | added name => exact ih fresh.2
      | collided name | hostCollided name => exact ih fresh

end Lists

section Creating
variable {hostToo : Bool} {service : CAvahiService} {answers : Nat → AddAnswer} {call : Nat}

theorem createService_log (service : CAvahiService) (answers : Nat → AddAnswer) (call : Nat) :
    service.log <:+ (service.createService answers call).log := by
  fun_induction CAvahiService.createService service answers call with
  | case1 => exact List.suffix_rfl
  | case2 service call _ group none collision ih =>
      exact ((List.suffix_cons _ _).trans (List.suffix_cons _ _)).trans ih
  | case3 | case4 => exact List.suffix_cons _ _
  | case5 => exact List.suffix_rfl

theorem createService_count (service : CAvahiService) (answers : Nat → AddAnswer) (call : Nat) :
    (service.createService answers call).collisionCount ≤ 5 := by
  fun_induction CAvahiService.createService service answers call with
  | case1 => exact Nat.zero_le _
  | case2 service call _ group none collision ih => exact ih
  | case3 | case4 | case5 => simp only; omega

theorem createService_adds (adds : service.Adds) :
    .added service.serviceName :: service.log <:+ (service.createService answers call).log := by
  rw [CAvahiService.createService, if_neg (Nat.not_lt.mpr adds.1)]
  simp only [adds.2, ↓reduceIte]
  cases answers call with
  | collision =>
      have behind := createService_log service.collide answers (call + 1)
      exact (List.suffix_cons _ _).trans behind
  | failed | added committed => exact List.suffix_rfl

theorem not_fresh_of_reported (adds : service.Adds)
    (reported : Reported hostToo service.serviceName service.log) :
    ¬ Fresh hostToo (service.createService answers call).log := by
  intro fresh
  have suffix : .added service.serviceName :: service.log <:+
      (service.createService answers call).log := createService_adds adds
  obtain ⟨more, log⟩ := suffix
  rw [← log] at fresh
  exact (fresh_of_append more _ fresh).1 reported

theorem not_fresh_of_retry (adds : service.Adds) (collision : answers call = .collision)
    (below : service.collisionCount ≠ 5) :
    ¬ Fresh hostToo (service.createService answers call).log := by
  rw [CAvahiService.createService, if_neg (Nat.not_lt.mpr adds.1)]
  simp only [adds.2, ↓reduceIte, collision]
  apply not_fresh_of_reported
  · have limit := adds.1
    exact ⟨by simp only [CAvahiService.collide]; omega, rfl⟩
  · simp [CAvahiService.collide, Entry.Reports]

end Creating

section Names

def nameOf (renamed : Nat) : String :=
  if renamed = 0 then baseServiceName
  else baseServiceName ++ " #" ++ toString (renamed % 2 ^ 64)

theorem alternative_ne_base (text : String) :
    baseServiceName ++ " #" ++ text ≠ baseServiceName := by
  intro same
  have lengths := congrArg String.length same
  simp only [String.length_append] at lengths
  have mark : " #".length = 2 := rfl
  omega

theorem alternative_eq_iff (first second : Nat) :
    baseServiceName ++ " #" ++ toString first = baseServiceName ++ " #" ++ toString second ↔
      first = second := by
  constructor
  · intro same
    exact Decimal.toString_injective ((String.append_right_inj _).mp same)
  · rintro rfl
    rfl

theorem nameOf_injective {first second : Nat} (firstFew : first ≤ 2 ^ 64)
    (secondFew : second ≤ 2 ^ 64) (same : nameOf first = nameOf second) : first = second := by
  unfold nameOf at same
  split at same
  next base =>
    split at same
    next alsoBase => rw [base, alsoBase]
    next => exact absurd same.symm (alternative_ne_base _)
  next named =>
    split at same
    next => exact absurd same (alternative_ne_base _)
    next alsoNamed =>
      have numbers := (alternative_eq_iff _ _).mp same
      omega

/-- The counter wraps, and the name behind the last is one of the first. -/
theorem nameOf_wraps : nameOf (2 ^ 64 + 1) = nameOf 1 := by
  have first : (2 ^ 64 + 1) % 2 ^ 64 = 1 % 2 ^ 64 := by decide
  simp only [nameOf, first]
  rfl

end Names

section Invariant
variable {hostToo : Bool} {service : CAvahiService}

/-- The names that were used are the first so many, and all but the current one have
collided. -/
structure Named (hostToo : Bool) (service : CAvahiService) : Prop where
  fresh : Fresh hostToo service.log
  counted : service.serviceCount.toNat = service.renamed % 2 ^ 64
  few : service.renamed ≤ 2 ^ 64
  name : service.serviceName = nameOf service.renamed
  used : ∀ name, Reported hostToo name service.log →
    ∃ number ≤ service.renamed, name = nameOf number
  collided : ∀ number < service.renamed, Reported hostToo (nameOf number) service.log

theorem initial_named (collisionCount : Nat) : Named hostToo (initial collisionCount) where
  fresh := trivial
  counted := rfl
  few := Nat.zero_le _
  name := rfl
  used _ reported := absurd reported reported_nil
  collided _ before := absurd before (Nat.not_lt_zero _)

theorem named_entry (entry : Entry) (named : Named hostToo service)
    (own : ∀ name, entry.Reports hostToo name → name = service.serviceName)
    (fresh : Fresh hostToo (entry :: service.log)) :
    Named hostToo { service with log := entry :: service.log } where
  fresh := fresh
  counted := named.counted
  few := named.few
  name := named.name
  used name reported := by
    rcases (reported_cons entry service.log).mp reported with now | before
    · exact ⟨service.renamed, Nat.le_refl _, (own name now).trans named.name⟩
    · exact named.used name before
  collided number before := by
    rw [reported_cons]
    exact Or.inr (named.collided number before)

theorem added_named (named : Named hostToo service)
    (clear : ¬ Reported hostToo service.serviceName service.log) :
    Named hostToo { service with log := .added service.serviceName :: service.log } := by
  apply named_entry (.added service.serviceName) named
  · exact fun name reports => reports.elim
  · exact ⟨clear, named.fresh⟩

theorem collided_named (named : Named hostToo service) :
    Named hostToo { service with log := .collided service.serviceName :: service.log } := by
  apply named_entry (.collided service.serviceName) named
  · exact fun name reports => reports.symm
  · exact named.fresh

theorem named_with (collisionCount : Nat) (group : Option Nat) (toldToQuit : Bool)
    (named : Named hostToo service) :
    Named hostToo { service with collisionCount, group, toldToQuit } :=
  ⟨named.fresh, named.counted, named.few, named.name, named.used, named.collided⟩

theorem createService_named (answers : Nat → AddAnswer) (named : Named hostToo service)
    (lawful : service.Adds → ¬ Reported hostToo service.serviceName service.log ∧
      (answers 0 = .collision → service.collisionCount = 5)) :
    Named hostToo (service.createService answers 0) := by
  rw [CAvahiService.createService]
  split
  next => exact named_with 0 _ _ named
  next within =>
    dsimp only
    split
    next none =>
      obtain ⟨clear, last⟩ := lawful ⟨Nat.le_of_not_lt within, none⟩
      have added := added_named named clear
      cases answer : answers 0 with
      | collision =>
          -- The retry finds the counter above its limit.
          have limit := last answer
          rw [CAvahiService.createService, if_pos (by simp only [CAvahiService.collide]; omega)]
          have collided : Named hostToo service.collide :=
            named_with (service.collisionCount + 1) (some 0) _ (collided_named added)
          exact named_with 0 _ _ collided
      | failed => exact named_with _ (some 0) true added
      | added committed => exact named_with _ (some 1) _ added
    next => exact named_with _ _ _ named

theorem alternative_count (named : Named hostToo service) :
    (service.serviceCount + 1).toNat = (service.renamed + 1) % 2 ^ 64 := by
  rw [UInt64.toNat_add, named.counted]
  simp

theorem alternative_name (named : Named hostToo service) :
    service.alternativeServiceName.serviceName = nameOf (service.renamed + 1) := by
  simp only [CAvahiService.alternativeServiceName, alternative_count named, nameOf,
    Nat.add_one_ne_zero, ↓reduceIte]

theorem alternative_clear (named : Named hostToo service) (few : service.renamed < 2 ^ 64) :
    ¬ Reported hostToo service.alternativeServiceName.serviceName service.log := by
  intro reported
  obtain ⟨number, before, same⟩ := named.used _ reported
  rw [alternative_name named] at same
  have numbers := nameOf_injective few (Nat.le_trans before named.few) same
  omega

theorem alternative_named (named : Named hostToo service)
    (reported : Reported hostToo service.serviceName service.log)
    (few : service.renamed < 2 ^ 64) : Named hostToo service.alternativeServiceName where
  fresh := named.fresh
  counted := alternative_count named
  few := few
  name := alternative_name named
  used name reports := by
    obtain ⟨number, before, same⟩ := named.used name reports
    exact ⟨number, Nat.le_succ_of_le before, same⟩
  collided number before := by
    rcases Nat.lt_succ_iff_lt_or_eq.mp before with earlier | rfl
    · exact named.collided number earlier
    · rw [← named.name]
      exact reported

end Invariant

section Callbacks
variable {hostToo : Bool} {service : CAvahiService}

structure Sound (hostToo : Bool) (service : CAvahiService) : Prop where
  named : Named hostToo service
  count : service.collisionCount ≤ 5 ∨ service.renamed = 0

def CAvahiService.renaming (service : CAvahiService) : CAvahiService :=
  { { service with
      group := some (service.group.getD 0)
      log := .collided service.serviceName :: service.log }.alternativeServiceName with
    group := some 0 }

theorem grouped_named (named : Named hostToo service) :
    Named hostToo { service with
      group := some (service.group.getD 0)
      log := .collided service.serviceName :: service.log } :=
  named_with _ _ _ (collided_named named)

theorem renaming_name (named : Named hostToo service) :
    service.renaming.serviceName = nameOf (service.renamed + 1) :=
  alternative_name (grouped_named named)

theorem renaming_clear (named : Named hostToo service) (few : service.renamed < 2 ^ 64) :
    ¬ Reported hostToo service.renaming.serviceName service.renaming.log :=
  alternative_clear (grouped_named named) few

theorem renaming_named (named : Named hostToo service) (few : service.renamed < 2 ^ 64) :
    Named hostToo service.renaming := by
  apply named_with _ (some 0) _ (alternative_named (grouped_named named) _ few)
  exact (reported_cons _ _).mpr (Or.inl rfl)

theorem step_sound (label : Label) (sound : Sound hostToo service)
    (renames : Renames hostToo service label) :
    Runs.Ends (Sound hostToo) (fun _ => True) (step service label) := by
  obtain ⟨named, count⟩ := sound
  cases label with
  | client state answers =>
      cases state with
      | running =>
          refine ⟨createService_named answers named renames, ?_⟩
          exact Or.inl (createService_count _ _ _)
      | collision =>
          refine ⟨named_with _ _ _ (named_entry (.hostCollided service.serviceName) named ?_ ?_),
            count⟩
          · exact fun name reports => reports.2.symm
          · exact named.fresh
      | registering | failure => exact ⟨named_with _ _ _ named, count⟩
      | connecting => exact ⟨named, count⟩
  | group state answers =>
      cases state with
      | collision =>
          have few : service.renamed < 2 ^ 64 := by
            rcases count with within | first
            · exact (renames within).1
            · rw [first]
              exact Nat.two_pow_pos 64
          constructor
          · apply createService_named answers (renaming_named named few)
            intro adds
            exact ⟨renaming_clear named few, (renames adds.1).2⟩
          · exact Or.inl (createService_count _ _ _)
      | established | uncommited | registering => exact ⟨named_with _ _ _ named, count⟩
      | failure =>
          have grouped := named_with service.collisionCount (some (service.group.getD 0))
            service.toldToQuit named
          exact ⟨named_with _ _ true grouped, count⟩

theorem renames_of_fresh (label : Label) (sound : Sound hostToo service)
    (fresh : Runs.Ends (fun next : CAvahiService => Fresh hostToo next.log) (fun _ => True)
      (step service label)) : Renames hostToo service label := by
  obtain ⟨named, _⟩ := sound
  cases label with
  | client state answers =>
      cases state with
      | running =>
          intro adds
          constructor
          · intro reported
            exact not_fresh_of_reported adds reported fresh
          · intro collision
            by_contra below
            exact not_fresh_of_retry adds collision below fresh
      | collision | registering | failure | connecting => trivial
  | group state answers =>
      cases state with
      | collision =>
          intro within
          have adds : service.renaming.Adds := ⟨within, rfl⟩
          constructor
          · by_contra many
            -- The name behind the last one has collided long ago.
            have last : service.renamed = 2 ^ 64 := by
              have few := named.few
              omega
            have again : service.renaming.serviceName = nameOf 1 := by
              rw [← nameOf_wraps, ← last]
              exact renaming_name named
            apply not_fresh_of_reported adds _ fresh
            rw [again]
            exact (reported_cons _ _).mpr (Or.inr (named.collided 1 (by omega)))
          · intro collision
            by_contra below
            exact not_fresh_of_retry adds collision below fresh
      | established | uncommited | registering | failure => trivial

/-- Every name is fresh in exactly the runs in which no collision meets a retry and no
collided name is brought up again. -/
theorem names_fresh_iff (hostToo : Bool) (collisionCount : Nat) (labels : List Label) :
    (∀ front, front <+: labels →
      Runs.Ends (fun service : CAvahiService => Fresh hostToo service.log) (fun _ => True)
        (Runs.run step (initial collisionCount) front)) ↔
      Runs.Along step (Renames hostToo) (initial collisionCount) labels := by
  apply Runs.prefixes_end_iff (Sound hostToo) (fun service => Fresh hostToo service.log)
    (fun _ => True) (fun _ sound => sound.named.fresh)
  · exact fun _ label sound renames => step_sound label sound renames
  · exact fun _ label sound fresh => renames_of_fresh label sound fresh
  · exact ⟨initial_named collisionCount, Or.inr rfl⟩

/-- `add_service` answers a collision of the first name, and the retry passes it again. -/
theorem retry_passes_collided_name :
    let labels : List Label :=
      [.client .running fun call => if call = 0 then .collision else .added true]
    ¬ Runs.Ends (fun service : CAvahiService => Fresh false service.log) (fun _ => True)
      (Runs.run step (initial 0) labels) := by
  intro labels fresh
  have adds : (initial 0).Adds := ⟨Nat.zero_le _, rfl⟩
  exact not_fresh_of_retry adds rfl (by decide) fresh

end Callbacks
end SaneInTheMembrane.AvahiNames

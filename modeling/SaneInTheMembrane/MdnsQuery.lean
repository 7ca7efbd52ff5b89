import SaneInTheMembrane.Runs

/-!
The records of an mDNS query, as `query_callback` receives them. One partial result
serves all responders: an address and a port become a result as soon as both are
there, whoever announced them. Nothing is mixed or lost while each record finds nothing
pending, or what its own responder sent.
-/

namespace SaneInTheMembrane.MdnsQuery

section Model

inductive EAddressType where
  | ipv4 | ipv6
  deriving DecidableEq, Repr

structure SQueryResult where
  address : String
  port : UInt16
  addressType : EAddressType
  deriving DecidableEq, Repr

inductive Record where
  | srv (port : UInt16)
  | a (address : String)
  | aaaa (address : String)
  | other (type : UInt16)
  deriving DecidableEq, Repr

structure CPartialQueryResult where
  ipV4Addr : Option String := none
  ipV6Addr : Option String := none
  port : Option UInt16 := none
  deriving DecidableEq, Repr

namespace CPartialQueryResult

def setIpv4 (partialResult : CPartialQueryResult) (address : String) : CPartialQueryResult :=
  { partialResult with ipV4Addr := some address }

def setIpv6 (partialResult : CPartialQueryResult) (address : String) : CPartialQueryResult :=
  { partialResult with ipV6Addr := some address }

def setPort (partialResult : CPartialQueryResult) (port : UInt16) : CPartialQueryResult :=
  { partialResult with port := some port }

def reset (_ : CPartialQueryResult) : CPartialQueryResult where
  ipV4Addr := none
  ipV6Addr := none
  port := none

/-- The result, when there is an address and a port, and what is left. -/
def buildIpv4 (partialResult : CPartialQueryResult) :
    Option SQueryResult × CPartialQueryResult :=
  match partialResult.ipV4Addr, partialResult.port with
  | some address, some port => (some ⟨address, port, .ipv4⟩, partialResult.reset)
  | _, _ => (none, partialResult)

def set (partialResult : CPartialQueryResult) : Record → CPartialQueryResult
  | .srv port => partialResult.setPort port
  | .a address => partialResult.setIpv4 address
  | .aaaa address => partialResult.setIpv6 address
  | .other _ => partialResult

end CPartialQueryResult

structure CMDns where
  partialQueryResult : CPartialQueryResult := {}
  queryResults : List SQueryResult := []
  deriving DecidableEq, Repr

def CMDns.queryCallback (mdns : CMDns) (record : Record) : CMDns :=
  let built := (mdns.partialQueryResult.set record).buildIpv4
  { partialQueryResult := built.2
    queryResults := mdns.queryResults ++ built.1.toList }

def queryServices (records : List Record) : List SQueryResult :=
  (records.foldl CMDns.queryCallback {}).queryResults

end Model

section Responders

structure Responder where
  port : UInt16
  addresses : List String
  ipv6Addresses : List String := []
  hasAddress : addresses ≠ []

def Responder.announced (responder : Responder) : List Record :=
  .srv responder.port ::
    (responder.addresses.map .a ++ responder.ipv6Addresses.map .aaaa)

def Responder.Announces (responder : Responder) (address : String) (port : UInt16) : Prop :=
  address ∈ responder.addresses ∧ port = responder.port

/-- Every result is announced by one responder, and every responder has one. -/
structure NeverMixed (responders : List Responder) (results : List SQueryResult) : Prop where
  sameServer : ∀ result ∈ results, ∃ responder ∈ responders,
    responder.Announces result.address result.port
  found : ∀ responder ∈ responders, ∃ result ∈ results,
    responder.Announces result.address result.port

/-- A record with the place of the responder that sent it. -/
structure Arrival where
  sender : Nat
  record : Record
  deriving DecidableEq, Repr

def announcements (responders : List Responder) : List Arrival :=
  responders.zipIdx.flatMap fun sender => sender.1.announced.map (Arrival.mk sender.2)

inductive Half where
  | address (address : String)
  | port (port : UInt16)
  deriving DecidableEq, Repr

def half : Record → Option Half
  | .srv port => some (.port port)
  | .a address => some (.address address)
  | .aaaa _ | .other _ => none

def meet : Half → Half → Option SQueryResult
  | .address address, .port port | .port port, .address address => some ⟨address, port, .ipv4⟩
  | .address _, .address _ | .port _, .port _ => none

def CPartialQueryResult.pending (partialResult : CPartialQueryResult) : Option Half :=
  match partialResult.ipV4Addr with
  | some address => some (.address address)
  | none => partialResult.port.map .port

/-- `owner` is the sender of what is pending. -/
structure Receiver where
  mdns : CMDns := {}
  owner : Option Nat := none
  deriving DecidableEq, Repr

def receive (receiver : Receiver) (arrival : Arrival) : Receiver :=
  let mdns := receiver.mdns.queryCallback arrival.record
  { mdns
    owner :=
      if mdns.partialQueryResult.pending = none then none
      else if half arrival.record = none then receiver.owner
      else some arrival.sender }

def step (receiver : Receiver) (arrival : Arrival) : Except Empty Receiver :=
  .ok (receive receiver arrival)

/-- The responder at this place has a result. -/
def Served (responders : List Responder) (results : List SQueryResult) (place : Nat) : Prop :=
  ∀ responder ∈ responders[place]?, ∃ result ∈ results,
    responder.Announces result.address result.port

/-- A record finds nothing pending, or what its own responder sent, or overwrites what a
responder sent that has a result. -/
def MayArrive (responders : List Responder) (receiver : Receiver) (arrival : Arrival) : Prop :=
  ∀ new ∈ half arrival.record, ∀ old ∈ receiver.mdns.partialQueryResult.pending,
    receiver.owner = some arrival.sender ∨ meet old new = none ∧
      ∀ place ∈ receiver.owner, Served responders receiver.mdns.queryResults place

instance (responder : Responder) (address : String) (port : UInt16) :
    Decidable (responder.Announces address port) :=
  inferInstanceAs (Decidable (_ ∧ _))

instance (responders : List Responder) (results : List SQueryResult) (place : Nat) :
    Decidable (Served responders results place) :=
  inferInstanceAs (Decidable (∀ responder ∈ responders[place]?, _))

instance (responders : List Responder) (receiver : Receiver) (arrival : Arrival) :
    Decidable (MayArrive responders receiver arrival) :=
  inferInstanceAs (Decidable (∀ new ∈ half arrival.record, _))

end Responders

section Callback

/-- Once the address and the port are there, they are gone. -/
def Incomplete (partialResult : CPartialQueryResult) : Prop :=
  partialResult.ipV4Addr = none ∨ partialResult.port = none

inductive Called (mdns next : CMDns) : Option Half → Prop where
  | ignored (same : next.partialQueryResult.pending = mdns.partialQueryResult.pending)
      (results : next.queryResults = mdns.queryResults) : Called mdns next none
  | kept (new : Half)
      (unmet : ∀ old, mdns.partialQueryResult.pending = some old → meet old new = none)
      (pending : next.partialQueryResult.pending = some new)
      (results : next.queryResults = mdns.queryResults) : Called mdns next (some new)
  | met (old new : Half) (result : SQueryResult)
      (waiting : mdns.partialQueryResult.pending = some old) (made : meet old new = some result)
      (pending : next.partialQueryResult.pending = none)
      (results : next.queryResults = mdns.queryResults ++ [result]) : Called mdns next (some new)

theorem queryCallback_called (mdns : CMDns) (record : Record)
    (incomplete : Incomplete mdns.partialQueryResult) :
    Incomplete (mdns.queryCallback record).partialQueryResult ∧
      Called mdns (mdns.queryCallback record) (half record) := by
  obtain ⟨⟨address, ipv6, port⟩, results⟩ := mdns
  cases record with
  | srv new =>
      cases address with
      | none =>
          refine ⟨.inl rfl, .kept _ ?_ rfl (List.append_nil _)⟩
          -- A port that is already pending is overwritten.
          cases port <;> simp [CPartialQueryResult.pending, meet]
      | some found =>
          obtain absent | absent := incomplete
          · cases absent
          · cases absent
            exact ⟨.inl rfl, .met (.address found) _ ⟨found, new, .ipv4⟩ rfl rfl rfl rfl⟩
  | a new =>
      cases port with
      | none =>
          refine ⟨.inr rfl, .kept _ ?_ rfl (List.append_nil _)⟩
          cases address <;> simp [CPartialQueryResult.pending, meet]
      | some found =>
          obtain absent | absent := incomplete
          · cases absent
            exact ⟨.inl rfl, .met (.port found) _ ⟨new, found, .ipv4⟩ rfl rfl rfl rfl⟩
          · cases absent
  | aaaa new | other type =>
      obtain absent | absent := incomplete
      · cases absent
        cases port <;> exact ⟨.inl rfl, .ignored rfl (List.append_nil _)⟩
      · cases absent
        cases address <;> exact ⟨.inr rfl, .ignored rfl (List.append_nil _)⟩

end Callback

section Run
variable {responders : List Responder} {seen : List Arrival} {receiver : Receiver}
  {arrival : Arrival}

def Responder.Sends (responder : Responder) : Half → Prop
  | .address address => address ∈ responder.addresses
  | .port port => port = responder.port

theorem announcements_iff : arrival ∈ announcements responders ↔
    ∃ responder, responders[arrival.sender]? = some responder ∧
      arrival.record ∈ responder.announced := by
  obtain ⟨sender, record⟩ := arrival
  simp only [announcements, List.mem_flatMap, List.mem_map, Arrival.mk.injEq, Prod.exists,
    List.mem_zipIdx_iff_getElem?]
  constructor
  · rintro ⟨responder, place, there, announced, member, rfl, rfl⟩
    exact ⟨responder, there, member⟩
  · rintro ⟨responder, there, member⟩
    exact ⟨responder, sender, there, record, member, rfl, rfl⟩

theorem sends_of_announced {responder : Responder} {record : Record} {new : Half}
    (member : record ∈ responder.announced) (is_half : half record = some new) :
    responder.Sends new := by
  simp only [Responder.announced, List.mem_cons, List.mem_append, List.mem_map] at member
  obtain rfl | ⟨address, listed, rfl⟩ | ⟨address, _, rfl⟩ := member
  · cases is_half
    rfl
  · cases is_half
    exact listed
  · cases is_half

theorem meet_announced {responder : Responder} {old new : Half} {result : SQueryResult}
    (made : meet old new = some result) (first : responder.Sends old)
    (second : responder.Sends new) : responder.Announces result.address result.port := by
  cases old <;> cases new <;> cases made
  · exact ⟨first, second⟩
  · exact ⟨second, first⟩

/-- A responder without a result has sent nothing that is not pending still, or overwritten
by its like. -/
structure Kept (responders : List Responder) (seen : List Arrival) (receiver : Receiver) :
    Prop where
  incomplete : Incomplete receiver.mdns.partialQueryResult
  owned : ∀ old, receiver.mdns.partialQueryResult.pending = some old →
    ∃ place responder, receiver.owner = some place ∧ responders[place]? = some responder ∧
      responder.Sends old
  idle : receiver.mdns.partialQueryResult.pending = none → receiver.owner = none
  sameServer : ∀ result ∈ receiver.mdns.queryResults, ∃ responder ∈ responders,
    responder.Announces result.address result.port
  waits : ∀ place, ¬ Served responders receiver.mdns.queryResults place →
    ∀ earlier ∈ seen, earlier.sender = place → ∀ new, half earlier.record = some new →
      receiver.owner = some place ∧
        ∀ old, receiver.mdns.partialQueryResult.pending = some old → meet old new = none

theorem served_append {results : List SQueryResult} {place : Nat} (result : SQueryResult)
    (served : Served responders results place) :
    Served responders (results ++ [result]) place := by
  intro responder there
  obtain ⟨found, member, announces⟩ := served responder there
  exact ⟨found, List.mem_append_left _ member, announces⟩

theorem meet_self (half : Half) : meet half half = none := by cases half <;> rfl

theorem meet_unmet {first second third : Half} (unmet : meet first second = none)
    (other : meet first third = none) : meet second third = none := by
  cases first <;> cases second <;> cases third <;> simp_all [meet]

theorem receive_kept (kept : Kept responders seen receiver)
    (sent : arrival ∈ announcements responders) (may : MayArrive responders receiver arrival) :
    Kept responders (seen ++ [arrival]) (receive receiver arrival) := by
  obtain ⟨responder, there, announced⟩ := announcements_iff.mp sent
  obtain ⟨incomplete, called⟩ :=
    queryCallback_called receiver.mdns arrival.record kept.incomplete
  generalize shape : half arrival.record = kind at called
  cases called with
  | ignored same results =>
      have owner : (receive receiver arrival).owner = receiver.owner := by
        simp only [receive, same, shape, if_true]
        split
        next idle => exact (kept.idle idle).symm
        next => rfl
      constructor
      · exact incomplete
      · rw [owner]
        exact fun old waiting => kept.owned old (same ▸ waiting)
      · rw [owner]
        exact fun idle => kept.idle (same ▸ idle)
      · exact results ▸ kept.sameServer
      · rw [owner]
        intro place unserved earlier member from_place new is_half
        obtain earlier_seen | rfl : earlier ∈ seen ∨ earlier = arrival := by simpa using member
        · obtain ⟨mine, unmet⟩ := kept.waits place (results ▸ unserved) earlier earlier_seen
            from_place new is_half
          exact ⟨mine, fun old waiting => unmet old (same ▸ waiting)⟩
        · rw [shape] at is_half
          cases is_half
  | kept new unmet pending results =>
      have owner : (receive receiver arrival).owner = some arrival.sender := by
        simp [receive, pending, shape]
      constructor
      · exact incomplete
      · intro old waiting
        cases pending.symm.trans waiting
        exact ⟨_, responder, owner, there, sends_of_announced announced shape⟩
      · intro idle
        cases pending.symm.trans idle
      · exact results ▸ kept.sameServer
      · rw [owner]
        intro place unserved earlier member from_place half_ is_half
        have before : ¬ Served responders receiver.mdns.queryResults place := results ▸ unserved
        obtain earlier_seen | rfl : earlier ∈ seen ∨ earlier = arrival := by simpa using member
        · obtain ⟨mine, alike⟩ := kept.waits place before earlier earlier_seen from_place half_
            is_half
          -- What is overwritten is its own, for it has no result.
          obtain ⟨old, waiting⟩ : ∃ old, receiver.mdns.partialQueryResult.pending = some old := by
            cases waiting : receiver.mdns.partialQueryResult.pending with
            | none => rw [kept.idle waiting] at mine; cases mine
            | some old => exact ⟨old, rfl⟩
          obtain same | ⟨_, served⟩ := may new shape old waiting
          · refine ⟨same ▸ mine, fun last kept_now => ?_⟩
            cases pending.symm.trans kept_now
            exact meet_unmet (unmet old waiting) (alike old waiting)
          · exact absurd (served place mine) before
        · refine ⟨congrArg some from_place, fun last kept_now => ?_⟩
          cases pending.symm.trans kept_now
          cases shape.symm.trans is_half
          exact meet_self new
  | met old new result waiting made pending results =>
      have owner : (receive receiver arrival).owner = none := by simp [receive, pending]
      obtain ⟨place, sender, owns, placed, sends⟩ := kept.owned old waiting
      -- The two halves are of one responder, as they meet.
      have mine : place = arrival.sender := by
        obtain same | ⟨unmet, _⟩ := may new shape old waiting
        · exact Option.some.inj (owns.symm.trans same)
        · rw [made] at unmet
          cases unmet
      subst mine
      cases placed.symm.trans there
      have announces := meet_announced made sends (sends_of_announced announced shape)
      constructor
      · exact incomplete
      · intro last waits
        cases pending.symm.trans waits
      · exact fun _ => owner
      · intro found member
        obtain listed | rfl : found ∈ receiver.mdns.queryResults ∨ found = result := by
          simpa [receive, results] using member
        · exact kept.sameServer found listed
        · exact ⟨responder, List.mem_of_getElem? there, announces⟩
      · intro place unserved earlier member from_place half_ is_half
        exfalso
        apply unserved
        simp only [receive, results]
        by_cases same : place = arrival.sender
        · subst same
          intro other placed
          cases placed.symm.trans there
          exact ⟨result, by simp, announces⟩
        · apply served_append
          by_contra before
          obtain earlier_seen | rfl : earlier ∈ seen ∨ earlier = arrival := by simpa using member
          · have other := (kept.waits place before earlier earlier_seen from_place half_ is_half).1
            exact same (Option.some.inj (other.symm.trans owns))
          · exact same from_place.symm

theorem run_kept (arrivals : List Arrival) (kept : Kept responders seen receiver)
    (sent : arrivals ⊆ announcements responders)
    (along : Runs.Along step (MayArrive responders) receiver arrivals) :
    ∃ last, Kept responders (seen ++ arrivals) last ∧
      last.mdns = (arrivals.map Arrival.record).foldl CMDns.queryCallback receiver.mdns := by
  induction arrivals generalizing seen receiver with
  | nil => exact ⟨receiver, by simpa using kept, rfl⟩
  | cons arrival rest ih =>
      obtain ⟨first, others⟩ := List.cons_subset.mp sent
      obtain ⟨last, all, same⟩ := ih (receive_kept kept first along.1) others along.2
      exact ⟨last, by simpa using all, same⟩

theorem initial_kept : Kept responders [] {} where
  incomplete := .inl rfl
  owned := by simp [CPartialQueryResult.pending]
  idle _ := rfl
  sameServer := by simp
  waits := by simp

/-- In every order of the records, repeated or not, in which each may arrive when it does,
servers are not mixed and all are found. -/
theorem never_mixed (responders : List Responder) (arrivals : List Arrival)
    (sent : arrivals ⊆ announcements responders) (all : announcements responders ⊆ arrivals)
    (along : Runs.Along step (MayArrive responders) {} arrivals) :
    NeverMixed responders (queryServices (arrivals.map Arrival.record)) := by
  obtain ⟨last, kept, same⟩ := run_kept arrivals initial_kept sent along
  have results : queryServices (arrivals.map Arrival.record) = last.mdns.queryResults := by
    rw [queryServices, same]
  rw [results]
  refine ⟨kept.sameServer, fun responder member => ?_⟩
  obtain ⟨place, there⟩ := List.mem_iff_getElem?.mp member
  suffices served : Served responders last.mdns.queryResults place from served responder there
  by_contra unserved
  have arrived (record : Record) (announced : record ∈ responder.announced) :
      Arrival.mk place record ∈ [] ++ arrivals :=
    all (announcements_iff.mpr ⟨responder, there, announced⟩)
  obtain ⟨address, others, addresses⟩ := List.exists_cons_of_ne_nil responder.hasAddress
  obtain ⟨mine, port⟩ := kept.waits place unserved _ (arrived (.srv responder.port)
    (by simp [Responder.announced])) rfl _ rfl
  obtain ⟨_, address⟩ := kept.waits place unserved _ (arrived (.a address)
    (by simp [Responder.announced, addresses])) rfl _ rfl
  -- What is pending would be of both kinds.
  cases waiting : last.mdns.partialQueryResult.pending with
  | none =>
      rw [kept.idle waiting] at mine
      cases mine
  | some old =>
      have one := port old waiting
      have two := address old waiting
      cases old with
      | address => cases one
      | port => cases two

end Run

section Mixed

def flatbed : Responder := ⟨50051, ["10.0.0.1"], [], by simp⟩
def feeder : Responder := ⟨50052, ["10.0.0.2", "10.0.0.3"], ["fe80::2"], by simp⟩

theorem own_records_first_not_mixed :
    NeverMixed [flatbed, feeder] (queryServices
      [.srv 50051, .a "10.0.0.1", .a "10.0.0.3", .aaaa "fe80::2", .a "10.0.0.2", .srv 50052]) :=
  never_mixed [flatbed, feeder]
    [⟨0, .srv 50051⟩, ⟨0, .a "10.0.0.1"⟩, ⟨1, .a "10.0.0.3"⟩, ⟨1, .aaaa "fe80::2"⟩,
      ⟨1, .a "10.0.0.2"⟩, ⟨1, .srv 50052⟩] (by decide) (by decide) (by decide)

/-- The addresses arrive before the ports: the second address is paired with the
first port, and the first server is not found. -/
theorem addresses_first_mixed :
    let single : Responder := ⟨50052, ["10.0.0.2"], [], by simp⟩
    let records := [.a "10.0.0.1", .a "10.0.0.2", .srv 50051, .srv 50052]
    records.Perm ([flatbed, single].flatMap Responder.announced) ∧
    queryServices records = [⟨"10.0.0.2", 50051, .ipv4⟩] ∧
    ¬ NeverMixed [flatbed, single] (queryServices records) := by
  refine ⟨by decide, rfl, fun never => ?_⟩
  obtain ⟨responder, member, announced⟩ := never.sameServer ⟨"10.0.0.2", 50051, .ipv4⟩ (by decide)
  simp only [List.mem_cons, List.not_mem_nil, or_false] at member
  obtain rfl | rfl := member
  · simp [flatbed, Responder.Announces] at announced
  · simp [Responder.Announces] at announced

end Mixed
end SaneInTheMembrane.MdnsQuery

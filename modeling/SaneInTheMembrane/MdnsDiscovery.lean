import Mathlib
import SaneInTheMembrane.AutoDiscovery

/-!
Utils/mDNS/mDns.cpp: one discovery, from the network interfaces to the servers found. The
answers of the system are given beforehand: for each interface what opening a socket on it
gives, and for each `select` what is received then. The calls made are written down.
-/

namespace SaneInTheMembrane.MdnsDiscovery

open MdnsQuery (SQueryResult Record Half half)

section Model

structure SmDNSOptions where
  discoverTimeoutSec : Nat := 5
  queryTimeoutSec : Nat := 10
  continueAfterDiscover : Bool := true
  continueAfterQuery : Bool := true
  deriving DecidableEq, Repr

/-- The address of an interface, IPv4 as a number and IPv6 by its bytes. -/
inductive SockAddr where
  | inet (address : UInt32)
  | inet6 (scopeId : UInt32) (address : List UInt8)
  | other
  deriving DecidableEq, Repr

/-- An entry of `getifaddrs`, with the socket that can be opened on it, if any can. -/
structure IfAddrs where
  address : Option SockAddr
  up : Bool
  multicast : Bool
  loopback : Bool
  pointToPoint : Bool
  socket : Option Nat
  deriving DecidableEq, Repr

def inaddrLoopback : UInt32 := 0x7f000001

def localhost : List UInt8 := List.replicate 15 0 ++ [1]

def localhostMapped : List UInt8 := List.replicate 10 0 ++ [0xff, 0xff, 0x7f, 0, 0, 1]

/-- Of IPv4 only `127.0.0.1` is passed by, of IPv6 what has a scope and two addresses. -/
def SockAddr.usable : SockAddr → Bool
  | .inet address => address != inaddrLoopback
  | .inet6 scopeId address =>
      scopeId == 0 && address != localhost && address != localhostMapped
  | .other => false

def IfAddrs.usable (ifa : IfAddrs) : Bool :=
  match ifa.address with
  | none => false
  | some address =>
      ifa.up && ifa.multicast && !ifa.loopback && !ifa.pointToPoint && address.usable

inductive Round (Packet : Type) where
  | failed
  | timeout
  | ready (packet : Nat → Option Packet)

/-- What the system has for one set of sockets. Nothing is received behind the rounds. -/
structure Network (Packet : Type) where
  interfaces : Option (List IfAddrs)
  rounds : List (Round Packet)

inductive Call where
  | opened (socket : Nat)
  | sent (socket : Nat)
  | selected (timeout : Nat) (sockets : List Nat)
  | received (socket : Nat)
  | closed (socket : Nat)
  deriving DecidableEq, Repr

def openClientSockets (maxSockets : Nat) : List IfAddrs → List Nat → List Nat
  | [], sockets => sockets
  | ifa :: rest, sockets =>
      if ifa.usable ∧ sockets.length < maxSockets then
        openClientSockets maxSockets rest (sockets ++ ifa.socket.toList)
      else openClientSockets maxSockets rest sockets

def Network.sockets {Packet : Type} (network : Network Packet) : List Nat :=
  openClientSockets 32 (network.interfaces.getD []) []

section Loop
variable {State Packet : Type} (callback : State → Packet → State) (timeout : Nat)
  (continueAfter : Bool) (sockets : List Nat)

def receive (packet : Nat → Option Packet) (state : State) : State :=
  (sockets.filterMap packet).foldl callback state

def selectLoop : List (Round Packet) → State → State × List Call
  | .ready packet :: rest, state =>
      let next := receive callback sockets packet state
      let calls := .selected timeout sockets ::
        (sockets.filter fun socket => (packet socket).isSome).map .received
      if continueAfter then (next, calls)
      else
        let behind := selectLoop rest next
        (behind.1, calls ++ behind.2)
  | [], state | .failed :: _, state | .timeout :: _, state =>
      (state, [.selected timeout sockets])

end Loop

/-- A record of a reply: its name as `mdns_string_extract` copies it, a character for each
byte, and the name it points to. -/
structure Entry where
  name : String
  rtype : UInt16
  service : String
  deriving DecidableEq, Repr

structure SMDNSQuery where
  name : String
  type : UInt16
  deriving DecidableEq, Repr

def clearBuffer : List Char := List.replicate 256 '\x00'

structure CMDns where
  options : SmDNSOptions := {}
  entryNameBuffer : List Char := clearBuffer
  advertisedServices : List SMDNSQuery := []
  answers : MdnsQuery.CMDns := {}
  deriving DecidableEq, Repr

def expectedEntryTypeName : String := "_services._dns-sd._udp.local."

def serviceName : String := "_sane_in_the_membrane_service"

def recordtypePtr : UInt16 := 12

def Entry.PointsHere (entry : Entry) : Prop :=
  entry.rtype = recordtypePtr ∧ serviceName.toList <:+: entry.service.toList

instance (entry : Entry) : Decidable entry.PointsHere :=
  inferInstanceAs (Decidable (_ ∧ _))

/-- `mdns_string_extract` writes no terminator: behind the name stays what was there. -/
def stringExtract (name : List Char) (buffer : List Char) : List Char :=
  name.take buffer.length ++ buffer.drop name.length

/-- What `strcmp` reads of a buffer. -/
def cString (buffer : List Char) : List Char := buffer.takeWhile (· != '\x00')

namespace CMDns

def discoverCallback (mdns : CMDns) (entry : Entry) : CMDns :=
  let extracted :=
    { mdns with entryNameBuffer := stringExtract entry.name.toList mdns.entryNameBuffer }
  if cString extracted.entryNameBuffer = expectedEntryTypeName.toList ∧ entry.PointsHere then
    { extracted with
      advertisedServices := extracted.advertisedServices ++ [⟨entry.service, entry.rtype⟩] }
  else extracted

/-- The name buffer is written to as well, but no longer read. -/
def queryCallback (mdns : CMDns) (record : Record) : CMDns :=
  { mdns with answers := mdns.answers.queryCallback record }

def noSockets : String := "Failed to open any client sockets"

/-- What `discover_services` and `send_mdns_query` have in common: the sockets are opened,
sent to, listened to and closed. -/
def exchange {Packet : Type} (network : Network Packet) (timeout : Nat) (continueAfter : Bool)
    (callback : CMDns → Packet → CMDns) (mdns : CMDns) : Except String CMDns × List Call :=
  let sockets := network.sockets
  if sockets.isEmpty then (.error noSockets, [])
  else
    let heard := selectLoop callback timeout continueAfter sockets network.rounds mdns
    (.ok heard.1, sockets.map .opened ++ sockets.map .sent ++ heard.2 ++ sockets.map .closed)

def discoverServices (mdns : CMDns) (network : Network (List Entry)) :
    Except String CMDns × List Call :=
  mdns.exchange network mdns.options.discoverTimeoutSec mdns.options.continueAfterDiscover
    fun mdns entries => entries.foldl discoverCallback mdns

def sendMdnsQuery (mdns : CMDns) (network : Network (List Record)) :
    Except String CMDns × List Call :=
  mdns.exchange network mdns.options.queryTimeoutSec mdns.options.continueAfterQuery
    fun mdns records => records.foldl queryCallback mdns

def queryServices (mdns : CMDns) (network : Network (List Record)) :
    Except String (List SQueryResult) × List Call :=
  if mdns.advertisedServices.isEmpty then (.ok mdns.answers.queryResults, [])
  else
    let sent := mdns.sendMdnsQuery network
    (sent.1.map fun mdns => mdns.answers.queryResults, sent.2)

end CMDns

inductive Outcome where
  | discoverFailed (error : String)
  | discovered (found : List SQueryResult)
  deriving DecidableEq, Repr

inductive Fault where
  | undefinedBehaviour
  deriving DecidableEq, Repr

/-- `CMDnsAutoFinder::discover_inner` where it is not interrupted. A query that fails asks
for the error of a discovery that has none. -/
def discoverInner (first : Network (List Entry)) (second : Network (List Record)) :
    Except Fault Outcome × List Call :=
  let discovery := ({} : CMDns).discoverServices first
  match discovery.1 with
  | .error error => (.ok (.discoverFailed error), discovery.2)
  | .ok mdns =>
      let query := mdns.queryServices second
      match query.1 with
      | .error _ => (.error .undefinedBehaviour, discovery.2 ++ query.2)
      | .ok found => (.ok (.discovered found), discovery.2 ++ query.2)

/-- What one can see of the calls: which sockets are open, and none is used, opened or
closed but in its time, nor are there more than 32. -/
def replay : List Nat → List Call → Option (List Nat)
  | held, [] => some held
  | held, .opened socket :: rest =>
      if socket ∈ held ∨ 32 ≤ held.length then none else replay (held ++ [socket]) rest
  | held, .sent socket :: rest => if socket ∈ held then replay held rest else none
  | held, .selected _ sockets :: rest =>
      if ∀ socket ∈ sockets, socket ∈ held then replay held rest else none
  | held, .received socket :: rest => if socket ∈ held then replay held rest else none
  | held, .closed socket :: rest =>
      if socket ∈ held then replay (held.erase socket) rest else none

/-- How long these calls wait at most. -/
def waited : List Call → Nat
  | [] => 0
  | .selected timeout _ :: rest => timeout + waited rest
  | _ :: rest => waited rest

def Network.Distinct {Packet : Type} (network : Network Packet) : Prop :=
  network.sockets.Nodup

instance {Packet : Type} (network : Network Packet) : Decidable network.Distinct :=
  inferInstanceAs (Decidable (List.Nodup _))

/-- What the default options let a network be heard to say. -/
def Network.heard {Packet : Type} (network : Network Packet) : List Packet :=
  match network.rounds with
  | .ready packet :: _ => network.sockets.filterMap packet
  | _ => []

end Model

section Sockets
variable {Packet State : Type}

/-- The sockets are those of the first usable interfaces on which one can be opened. -/
theorem openClientSockets_eq (maxSockets : Nat) (interfaces : List IfAddrs) (sockets : List Nat)
    (room : sockets.length ≤ maxSockets) :
    openClientSockets maxSockets interfaces sockets = sockets ++
      ((interfaces.filter IfAddrs.usable).filterMap IfAddrs.socket).take
        (maxSockets - sockets.length) := by
  induction interfaces generalizing sockets with
  | nil => simp [openClientSockets]
  | cons ifa rest ih =>
      rw [openClientSockets]
      by_cases usable : ifa.usable = true
      · by_cases full : sockets.length < maxSockets
        · have least : 0 < maxSockets - sockets.length := by omega
          rw [if_pos ⟨usable, full⟩, List.filter_cons_of_pos usable]
          cases opened : ifa.socket with
          | none =>
              rw [List.filterMap_cons_none opened]
              simpa using ih sockets room
          | some socket =>
              have grown : (sockets ++ [socket]).length ≤ maxSockets := by
                rw [List.length_append]
                exact full
              rw [List.filterMap_cons_some opened, Option.toList_some, ih _ grown]
              obtain ⟨left, same⟩ := Nat.exists_eq_add_of_lt least
              rw [Nat.zero_add] at same
              simp [same, Nat.sub_add_eq]
        · have none : maxSockets - sockets.length = 0 := by omega
          rw [if_neg fun both => full both.2, ih sockets room, none]
          rfl
      · rw [if_neg fun both => usable both.1, ih sockets room,
          List.filter_cons_of_neg (by simpa using usable)]

theorem sockets_eq (network : Network Packet) :
    network.sockets = (((network.interfaces.getD []).filter IfAddrs.usable).filterMap
      IfAddrs.socket).take 32 :=
  openClientSockets_eq 32 _ [] (Nat.zero_le _)

theorem sockets_length (network : Network Packet) : network.sockets.length ≤ 32 := by
  rw [sockets_eq]
  exact List.length_take_le 32 _

theorem replay_append (held : List Nat) (front back : List Call) :
    replay held (front ++ back) = (replay held front).bind fun held => replay held back := by
  induction front generalizing held with
  | nil => rfl
  | cons call rest ih =>
      cases call with
      | opened socket | sent socket | selected timeout sockets | received socket | closed socket =>
          simp only [List.cons_append, replay]
          split
          · first | rfl | exact ih _
          · first | rfl | exact ih _

theorem replay_opened (held sockets : List Nat) (distinct : (held ++ sockets).Nodup)
    (room : (held ++ sockets).length ≤ 32) :
    replay held (sockets.map .opened) = some (held ++ sockets) := by
  induction sockets generalizing held with
  | nil => simp [replay]
  | cons socket rest ih =>
      have new : socket ∉ held := by
        have apart := List.disjoint_of_nodup_append distinct
        exact fun member => apart member List.mem_cons_self
      have few : ¬ 32 ≤ held.length := by
        rw [List.length_append, List.length_cons] at room
        omega
      have split : held ++ socket :: rest = (held ++ [socket]) ++ rest := by simp
      rw [List.map_cons, replay, if_neg (by simp [new, few]), split]
      rw [split] at distinct room
      exact ih _ distinct room

def Uses (held : List Nat) : Call → Prop
  | .sent socket | .received socket => socket ∈ held
  | .selected _ sockets => ∀ socket ∈ sockets, socket ∈ held
  | .opened _ | .closed _ => False

theorem replay_uses (held : List Nat) (calls : List Call) (uses : ∀ call ∈ calls, Uses held call) :
    replay held calls = some held := by
  induction calls with
  | nil => rfl
  | cons call rest ih =>
      have now := uses call List.mem_cons_self
      have later := ih fun other member => uses other (List.mem_cons_of_mem call member)
      cases call with
      | opened socket | closed socket => exact absurd now id
      | sent socket | received socket | selected timeout sockets =>
          simp only [Uses] at now
          rw [replay, if_pos now, later]

theorem replay_closed (sockets : List Nat) : replay sockets (sockets.map .closed) = some [] := by
  induction sockets with
  | nil => rfl
  | cons socket rest ih =>
      rw [List.map_cons, replay, if_pos List.mem_cons_self, List.erase_cons_head, ih]

theorem selectLoop_uses (callback : State → Packet → State) (timeout : Nat)
    (continueAfter : Bool) (sockets : List Nat) (rounds : List (Round Packet)) (state : State) :
    ∀ call ∈ (selectLoop callback timeout continueAfter sockets rounds state).2,
      Uses sockets call := by
  have alone : ∀ call ∈ [Call.selected timeout sockets], Uses sockets call := by
    intro call member
    rw [List.mem_singleton.mp member]
    exact fun _ => id
  induction rounds generalizing state with
  | nil => exact alone
  | cons round rest ih =>
      cases round with
      | failed | timeout => exact alone
      | ready packet =>
          have ready : ∀ call ∈ Call.selected timeout sockets ::
              (sockets.filter fun socket => (packet socket).isSome).map .received,
              Uses sockets call := by
            intro call member
            rcases List.mem_cons.mp member with rfl | received
            · exact fun _ => id
            · obtain ⟨socket, filtered, rfl⟩ := List.mem_map.mp received
              exact List.mem_of_mem_filter filtered
          cases continueAfter with
          | true => exact ready
          | false =>
              intro call member
              rcases List.mem_append.mp member with now | later
              · exact ready call now
              · exact ih _ call later

theorem exchange_replay (mdns : CMDns) (network : Network Packet) (timeout : Nat)
    (continueAfter : Bool) (callback : CMDns → Packet → CMDns) (distinct : network.Distinct) :
    replay [] (mdns.exchange network timeout continueAfter callback).2 = some [] := by
  simp only [CMDns.exchange]
  split
  next => rfl
  next =>
    have sent : ∀ call ∈ network.sockets.map Call.sent, Uses network.sockets call := by
      intro call member
      obtain ⟨socket, opened, rfl⟩ := List.mem_map.mp member
      exact opened
    have opened := replay_opened [] network.sockets distinct
      (sockets_length network)
    have heard := selectLoop_uses callback timeout continueAfter network.sockets network.rounds mdns
    rw [replay_append, replay_append, replay_append, opened]
    simp only [List.nil_append, Option.bind_some, replay_uses _ _ sent, replay_uses _ _ heard,
      replay_closed]

theorem waited_append (front back : List Call) :
    waited (front ++ back) = waited front + waited back := by
  induction front with
  | nil => simp [waited]
  | cons call rest ih =>
      cases call with
      | opened socket | sent socket | received socket | closed socket => exact ih
      | selected timeout sockets =>
          simp only [List.cons_append, waited, ih]
          omega

theorem waited_map (sockets : List Nat) (call : Nat → Call)
    (quick : ∀ socket, waited [call socket] = 0) : waited (sockets.map call) = 0 := by
  induction sockets with
  | nil => rfl
  | cons socket rest ih =>
      rw [List.map_cons, ← List.singleton_append, waited_append, quick, ih]

theorem selectLoop_waited (callback : State → Packet → State) (timeout : Nat)
    (sockets : List Nat) (rounds : List (Round Packet)) (state : State) :
    waited (selectLoop callback timeout true sockets rounds state).2 = timeout := by
  cases rounds with
  | nil => rfl
  | cons round rest =>
      cases round with
      | failed | timeout => rfl
      | ready packet =>
          change timeout + waited ((sockets.filter _).map .received) = timeout
          rw [waited_map _ _ fun _ => rfl, Nat.add_zero]

theorem exchange_waited (mdns : CMDns) (network : Network Packet) (timeout : Nat)
    (callback : CMDns → Packet → CMDns) :
    waited (mdns.exchange network timeout true callback).2 ≤ timeout := by
  simp only [CMDns.exchange]
  split
  next => exact Nat.zero_le _
  next =>
    rw [waited_append, waited_append, waited_append, selectLoop_waited,
      waited_map _ _ fun _ => rfl, waited_map _ _ fun _ => rfl, waited_map _ _ fun _ => rfl]
    omega

theorem exchange_opened (mdns : CMDns) (network : Network Packet) (timeout : Nat)
    (continueAfter : Bool) (callback : CMDns → Packet → CMDns) (socket : Nat)
    (opened : .opened socket ∈ (mdns.exchange network timeout continueAfter callback).2) :
    socket ∈ network.sockets := by
  simp only [CMDns.exchange] at opened
  split at opened
  next => cases opened
  next =>
    rcases List.mem_append.mp opened with front | closing
    · rcases List.mem_append.mp front with front | loop
      · rcases List.mem_append.mp front with opening | sending
        · simpa using opening
        · simp at sending
      · exact absurd (selectLoop_uses _ _ _ _ _ _ _ loop) id
    · simp at closing

theorem usable_of_socket (network : Network Packet) (socket : Nat)
    (member : socket ∈ network.sockets) :
    ∃ interfaces ifa, network.interfaces = some interfaces ∧ ifa ∈ interfaces ∧
      ifa.usable = true ∧ ifa.socket = some socket := by
  rw [sockets_eq] at member
  obtain ⟨ifa, listed, opened⟩ := List.mem_filterMap.mp (List.mem_of_mem_take member)
  obtain ⟨inside, usable⟩ := List.mem_filter.mp listed
  cases interfaces : network.interfaces with
  | none => simp [interfaces] at inside
  | some entries => exact ⟨entries, ifa, rfl, by simpa [interfaces] using inside, usable, opened⟩

end Sockets

section Heard
variable {Packet State : Type}

theorem selectLoop_heard (callback : State → Packet → State) (timeout : Nat)
    (network : Network Packet) (state : State) :
    (selectLoop callback timeout true network.sockets network.rounds state).1 =
      network.heard.foldl callback state := by
  unfold Network.heard
  cases network.rounds with
  | nil => rfl
  | cons round rest => cases round <;> rfl

theorem foldl_discoverCallback_kept (entries : List Entry) (mdns : CMDns) :
    (entries.foldl CMDns.discoverCallback mdns).options = mdns.options ∧
      (entries.foldl CMDns.discoverCallback mdns).answers = mdns.answers := by
  induction entries generalizing mdns with
  | nil => exact ⟨rfl, rfl⟩
  | cons entry rest ih =>
      obtain ⟨options, answers⟩ := ih (mdns.discoverCallback entry)
      rw [List.foldl_cons, options, answers, CMDns.discoverCallback]
      split <;> exact ⟨rfl, rfl⟩

theorem foldl_queryCallback (records : List Record) (mdns : CMDns) :
    records.foldl CMDns.queryCallback mdns =
      { mdns with answers := records.foldl MdnsQuery.CMDns.queryCallback mdns.answers } := by
  induction records generalizing mdns with
  | nil => rfl
  | cons record rest ih =>
      rw [List.foldl_cons, ih]
      rfl

end Heard

section Names

/-- What stands at a place of the buffer after these names, the newest first: the newest that
reaches it has written it last. -/
def shown : List String → Nat → Char
  | [], _ => '\x00'
  | name :: older, place => (name.toList[place]?).getD (shown older place)

/-- Behind these names the buffer holds the expected one and a terminator. -/
def Shows (names : List String) : Prop :=
  (List.range (expectedEntryTypeName.length + 1)).map (shown names) =
    expectedEntryTypeName.toList ++ ['\x00']

instance (names : List String) : Decidable (Shows names) :=
  inferInstanceAs (Decidable (_ = _))

/-- One of these records, received after those of the older names, points to the service
while the buffer holds the expected name. -/
def Named : List String → List Entry → Prop
  | _, [] => False
  | older, entry :: rest =>
      Shows (entry.name :: older) ∧ entry.PointsHere ∨ Named (entry.name :: older) rest

instance : (older : List String) → (entries : List Entry) → Decidable (Named older entries)
  | _, [] => inferInstanceAs (Decidable False)
  | older, entry :: rest =>
      have : Decidable (Named (entry.name :: older) rest) := instDecidableNamed _ rest
      inferInstanceAs (Decidable (_ ∨ _))

def written (names : List String) : List Char := (List.range 256).map (shown names)

theorem stringExtract_written (name : String) (older : List String) :
    stringExtract name.toList (written older) = written (name :: older) := by
  apply List.ext_getElem?
  intro place
  by_cases inside : place < 256
  · by_cases reached : place < name.toList.length
    · rw [stringExtract, List.getElem?_append_left (by simp [written]; omega)]
      simp [written, shown, inside, reached]
    · have behind : name.toList.length + (place - min 256 name.toList.length) = place := by omega
      rw [stringExtract, List.getElem?_append_right (by simp [written]; omega)]
      simp [written, shown, inside, reached, behind]
  · rw [List.getElem?_eq_none (by simp [stringExtract, written]; omega),
      List.getElem?_eq_none (by simp [written]; omega)]

theorem clearBuffer_eq : clearBuffer = written [] := by
  simp only [clearBuffer, written, shown, List.map_const', List.length_range]

theorem cString_eq_iff {buffer name : List Char} (short : name.length < buffer.length)
    (plain : '\x00' ∉ name) :
    cString buffer = name ↔ buffer.take (name.length + 1) = name ++ ['\x00'] := by
  induction name generalizing buffer with
  | nil =>
      cases buffer with
      | nil => simp at short
      | cons c rest => by_cases ends : c = '\x00' <;> simp [cString, ends]
  | cons first others ih =>
      cases buffer with
      | nil => simp at short
      | cons c rest =>
          have left : others.length < rest.length := by simpa using short
          have nonzero : first ≠ '\x00' := fun zero => plain (by simp [zero])
          have last := ih left fun member => plain (List.mem_cons_of_mem first member)
          rw [List.length_cons, List.take_succ_cons, List.cons_append, List.cons.injEq, ← last]
          constructor
          · intro same
            by_cases ends : c = '\x00'
            · simp [cString, ends] at same
            · simp only [cString, bne_iff_ne, ne_eq, ends, not_false_eq_true,
                List.takeWhile_cons_of_pos, List.cons.injEq] at same
              exact same
          · rintro ⟨rfl, same⟩
            simpa [cString, nonzero] using same

theorem shown_of_short {names : List String} {place : Nat}
    (short : ∀ name ∈ names, name.length ≤ place) : shown names place = '\x00' := by
  induction names with
  | nil => rfl
  | cons name older ih =>
      rw [shown, List.getElem?_eq_none (short name List.mem_cons_self), Option.getD_none]
      exact ih fun other member => short other (List.mem_cons_of_mem name member)

/-- A reply names the service if none before it has a longer name. -/
theorem named_of_short {older : List String} {front back : List Entry} {entry : Entry}
    (expected : entry.name = expectedEntryTypeName) (points : entry.PointsHere)
    (short : ∀ name ∈ older ++ front.map Entry.name,
      name.length ≤ expectedEntryTypeName.length) : Named older (front ++ entry :: back) := by
  induction front generalizing older with
  | nil =>
      refine .inl ⟨?_, points⟩
      have last : shown older expectedEntryTypeName.length = '\x00' :=
        shown_of_short (by simpa using short)
      have name : (List.range expectedEntryTypeName.length).map (shown (entry.name :: older)) =
          expectedEntryTypeName.toList := by
        rw [expected]
        rfl
      rw [Shows, List.range_succ, List.map_append, name, List.map_singleton, shown, expected,
        List.getElem?_eq_none (by decide), Option.getD_none, last]
  | cons other rest ih =>
      refine .inr (ih fun name member => short name ?_)
      simp only [List.cons_append, List.mem_cons, List.mem_append, List.map_cons] at member ⊢
      tauto

theorem cString_written (names : List String) :
    cString (written names) = expectedEntryTypeName.toList ↔ Shows names := by
  have front : (written names).take (expectedEntryTypeName.toList.length + 1) =
      (List.range (expectedEntryTypeName.length + 1)).map (shown names) := by
    rw [written, ← List.map_take, List.take_range]
    rfl
  rw [cString_eq_iff (by simp [written, expectedEntryTypeName]) (by decide), front, Shows]

theorem foldl_discoverCallback (entries : List Entry) (mdns : CMDns) (older : List String)
    (holds : mdns.entryNameBuffer = written older) :
    (entries.foldl CMDns.discoverCallback mdns).advertisedServices ≠ [] ↔
      mdns.advertisedServices ≠ [] ∨ Named older entries := by
  induction entries generalizing mdns older with
  | nil => simp [Named]
  | cons entry rest ih =>
      rw [List.foldl_cons, ih _ (entry.name :: older)]
      · simp only [CMDns.discoverCallback, holds, stringExtract_written, cString_written]
        by_cases named : Shows (entry.name :: older) ∧ entry.PointsHere
        · simp [Named, named]
        · simp only [Named, named, false_or, if_false]
      · rw [CMDns.discoverCallback, holds, stringExtract_written]
        split <;> rfl

end Names

section Discovery
variable {first : Network (List Entry)} {second : Network (List Record)}

def advertised (network : Network (List Entry)) : List SMDNSQuery :=
  (network.heard.flatten.foldl CMDns.discoverCallback {}).advertisedServices

theorem advertised_iff (network : Network (List Entry)) :
    advertised network ≠ [] ↔ Named [] network.heard.flatten :=
  (foldl_discoverCallback _ {} [] clearBuffer_eq).trans (or_iff_right fun some => some rfl)

theorem exchange_result {Packet : Type} (mdns : CMDns) (network : Network Packet) (timeout : Nat)
    (callback : CMDns → Packet → CMDns) :
    (mdns.exchange network timeout true callback).1 =
      if network.sockets = [] then .error CMDns.noSockets
      else .ok (network.heard.foldl callback mdns) := by
  simp only [CMDns.exchange, List.isEmpty_iff]
  split
  next => rfl
  next => rw [selectLoop_heard]

theorem discoverServices_result (network : Network (List Entry)) :
    (({} : CMDns).discoverServices network).1 =
      if network.sockets = [] then .error CMDns.noSockets
      else .ok (network.heard.flatten.foldl CMDns.discoverCallback {}) := by
  rw [CMDns.discoverServices, exchange_result, List.foldl_flatten]

theorem queryServices_result (network : Network (List Record)) (mdns : CMDns)
    (options : mdns.options = {}) (new : mdns.answers = {}) :
    (mdns.queryServices network).1 =
      if mdns.advertisedServices = [] then .ok []
      else if network.sockets = [] then .error CMDns.noSockets
      else .ok (MdnsQuery.queryServices network.heard.flatten) := by
  have flat := foldl_queryCallback network.heard.flatten mdns
  rw [List.foldl_flatten] at flat
  simp only [CMDns.queryServices, List.isEmpty_iff]
  split
  next => rw [new]
  next =>
    simp only [CMDns.sendMdnsQuery, options, exchange_result, flat]
    split
    next => rfl
    next =>
      exact congrArg (fun answers => Except.ok (List.foldl MdnsQuery.CMDns.queryCallback
      answers network.heard.flatten).queryResults) new

theorem discoverInner_calls (first : Network (List Entry)) (second : Network (List Record)) :
    ∃ query, (discoverInner first second).2 =
        (({} : CMDns).discoverServices first).2 ++ query ∧
      (query = [] ∨ ∃ mdns : CMDns, mdns.options = {} ∧
        query = (mdns.sendMdnsQuery second).2) := by
  have result := discoverServices_result first
  by_cases none : first.sockets = []
  · rw [if_pos none] at result
    exact ⟨[], by simp [discoverInner, result], .inl rfl⟩
  · rw [if_neg none] at result
    let mdns : CMDns := first.heard.flatten.foldl CMDns.discoverCallback {}
    refine ⟨(mdns.queryServices second).2, ?_, ?_⟩
    · simp only [discoverInner, result]
      split <;> rfl
    · simp only [CMDns.queryServices]
      split
      next => exact .inl rfl
      next => exact .inr ⟨mdns, (foldl_discoverCallback_kept _ _).1, rfl⟩

/-- Whatever the system answers: a discovery closes each socket it opens, once, uses none but
those and never has more than 32. It waits for at most 15 seconds in all, and opens sockets
on usable interfaces only. -/
theorem discovery_gives_back (first : Network (List Entry)) (second : Network (List Record))
    (firstDistinct : first.Distinct) (secondDistinct : second.Distinct) :
    let calls := (discoverInner first second).2
    replay [] calls = some [] ∧ waited calls ≤ 15 ∧
    ∀ socket, .opened socket ∈ calls →
      ∃ interfaces ifa, (first.interfaces = some interfaces ∨
        second.interfaces = some interfaces) ∧ ifa ∈ interfaces ∧
        ifa.usable = true ∧ ifa.socket = some socket := by
  obtain ⟨query, calls, asked⟩ := discoverInner_calls first second
  have before := exchange_replay {} first 5 true
    (fun mdns entries => entries.foldl CMDns.discoverCallback mdns) firstDistinct
  have waits := exchange_waited {} first 5
    fun mdns entries => entries.foldl CMDns.discoverCallback mdns
  have opens := exchange_opened {} first 5 true
    fun mdns entries => entries.foldl CMDns.discoverCallback mdns
  have after : replay [] query = some [] ∧ waited query ≤ 10 ∧
      ∀ socket, .opened socket ∈ query → socket ∈ second.sockets := by
    rcases asked with rfl | ⟨mdns, options, rfl⟩
    · exact ⟨rfl, Nat.zero_le _, fun _ opened => nomatch opened⟩
    · rw [CMDns.sendMdnsQuery, options]
      exact ⟨exchange_replay _ second 10 true _ secondDistinct, exchange_waited _ second 10 _,
        exchange_opened _ second 10 true _⟩
  dsimp only
  rw [calls]
  refine ⟨?_, ?_, ?_⟩
  · rw [replay_append, CMDns.discoverServices, before]
    exact after.1
  · rw [waited_append]
    exact Nat.add_le_add waits after.2.1
  · intro socket opened
    rcases List.mem_append.mp opened with discovery | querying
    · obtain ⟨interfaces, ifa, listed, usable⟩ :=
        usable_of_socket first socket (opens socket discovery)
      exact ⟨interfaces, ifa, .inl listed, usable⟩
    · obtain ⟨interfaces, ifa, listed, usable⟩ :=
        usable_of_socket second socket (after.2.2 socket querying)
      exact ⟨interfaces, ifa, .inr listed, usable⟩

def office : List IfAddrs :=
  [⟨some (.inet 0xc0a80002), true, true, false, false, some 3⟩,
    ⟨some (.inet 0xc0a80003), true, true, false, false, some 4⟩,
    ⟨some (.inet6 2 (0xfe :: 0x80 :: List.replicate 14 1)), true, true, false, false, some 5⟩,
    ⟨none, true, true, false, false, none⟩]

def officeServices : Network (List Entry) where
  interfaces := some office
  rounds :=
    [.ready fun socket =>
      if socket = 3 then
        some [⟨expectedEntryTypeName, recordtypePtr, serviceName ++ "._tcp.local."⟩]
      else none]

def officeServers : Network (List Record) where
  interfaces := some office
  rounds :=
    [.ready fun socket =>
      if socket = 3 then some [.srv 50051, .aaaa "fe80::1", .a "10.0.0.1"]
      else some [.a "10.0.0.2", .srv 50052, .other 16],
    .ready fun _ => some [.srv 50053, .a "10.0.0.3"]]

theorem discovery_gives_back_of_office :
    let calls := (discoverInner officeServices officeServers).2
    replay [] calls = some [] ∧ waited calls ≤ 15 ∧
    ∀ socket, .opened socket ∈ calls →
      ∃ interfaces ifa, (officeServices.interfaces = some interfaces ∨
        officeServers.interfaces = some interfaces) ∧ ifa ∈ interfaces ∧
        ifa.usable = true ∧ ifa.socket = some socket :=
  discovery_gives_back officeServices officeServers (by decide) (by decide)

def server (answer : String × UInt16) : SQueryResult := ⟨answer.1, answer.2, .ipv4⟩

/-- The datagram of one server: its port and one address, in whatever order, and records
that are neither. -/
def Whole (answer : String × UInt16) (records : List Record) : Prop :=
  records.filterMap half = [.address answer.1, .port answer.2] ∨
    records.filterMap half = [.port answer.2, .address answer.1]

def Idle (answers : MdnsQuery.CMDns) : Prop :=
  MdnsQuery.Incomplete answers.partialQueryResult ∧ answers.partialQueryResult.pending = none

theorem foldl_ignored {answers : MdnsQuery.CMDns} {records : List Record}
    (incomplete : MdnsQuery.Incomplete answers.partialQueryResult)
    (ignored : ∀ record ∈ records, half record = none) :
    let last := records.foldl MdnsQuery.CMDns.queryCallback answers
    MdnsQuery.Incomplete last.partialQueryResult ∧
      last.partialQueryResult.pending = answers.partialQueryResult.pending ∧
      last.queryResults = answers.queryResults := by
  induction records generalizing answers with
  | nil => exact ⟨incomplete, rfl, rfl⟩
  | cons record rest ih =>
      obtain ⟨still, called⟩ := MdnsQuery.queryCallback_called answers record incomplete
      rw [ignored record List.mem_cons_self] at called
      cases called with
      | ignored same results =>
          obtain ⟨last, pending, found⟩ :=
            ih still fun other member => ignored other (List.mem_cons_of_mem record member)
          exact ⟨last, pending.trans same, found.trans results⟩

theorem foldl_halves {answers : MdnsQuery.CMDns} {records : List Record} {old new : Half}
    {result : SQueryResult} (idle : Idle answers) (halves : records.filterMap half = [old, new])
    (made : MdnsQuery.meet old new = some result) :
    let last := records.foldl MdnsQuery.CMDns.queryCallback answers
    Idle last ∧ last.queryResults = answers.queryResults ++ [result] := by
  obtain ⟨front, one, behind, rfl, before, first, later⟩ := List.filterMap_eq_cons_iff.mp halves
  obtain ⟨between, two, back, rfl, among, second, none⟩ := List.filterMap_eq_cons_iff.mp later
  rw [List.filterMap_eq_nil_iff] at none
  simp only [List.foldl_append, List.foldl_cons]
  obtain ⟨incomplete, silent, same⟩ := foldl_ignored idle.1 before
  generalize front.foldl MdnsQuery.CMDns.queryCallback answers = start at incomplete silent same ⊢
  obtain ⟨incomplete, called⟩ := MdnsQuery.queryCallback_called start one incomplete
  rw [first] at called
  cases called with
  | met last _ _ waiting => rw [silent, idle.2] at waiting; cases waiting
  | kept _ _ pending results =>
      obtain ⟨incomplete, waits, found⟩ := foldl_ignored incomplete among
      generalize between.foldl MdnsQuery.CMDns.queryCallback (start.queryCallback one) = middle
        at incomplete waits found ⊢
      obtain ⟨incomplete, called⟩ := MdnsQuery.queryCallback_called middle two incomplete
      rw [second] at called
      cases called with
      | kept _ unmet => rw [unmet old (waits.trans pending)] at made; cases made
      | met last _ joined waiting joins gone added =>
          cases waiting.symm.trans (waits.trans pending)
          cases joins.symm.trans made
          obtain ⟨incomplete, nothing, rest⟩ := foldl_ignored incomplete none
          exact ⟨⟨incomplete, nothing.trans gone⟩, by rw [rest, added, found, results, same]⟩

theorem foldl_whole {answers : MdnsQuery.CMDns} {servers : List (String × UInt16)}
    {packets : List (List Record)} (idle : Idle answers)
    (whole : List.Forall₂ Whole servers packets) :
    (packets.flatten.foldl MdnsQuery.CMDns.queryCallback answers).queryResults =
      answers.queryResults ++ servers.map server := by
  induction whole generalizing answers with
  | nil => simp
  | @cons one records _ _ first rest ih =>
      have joined : Idle (records.foldl MdnsQuery.CMDns.queryCallback answers) ∧
          (records.foldl MdnsQuery.CMDns.queryCallback answers).queryResults =
            answers.queryResults ++ [server one] := by
        rcases first with order | order
        · exact foldl_halves idle order rfl
        · exact foldl_halves idle order rfl
      rw [List.flatten_cons, List.foldl_append, ih joined.1, joined.2]
      simp

theorem advertised_eq_nil (network : Network (List Entry)) (none : network.sockets = []) :
    advertised network = [] := by
  have silent : network.heard = [] := by
    unfold Network.heard
    split
    next => rw [none, List.filterMap_nil]
    next => rfl
  rw [advertised, silent]
  rfl

theorem discoverInner_result (first : Network (List Entry)) (second : Network (List Record)) :
    (discoverInner first second).1 =
      if first.sockets = [] then .ok (.discoverFailed CMDns.noSockets)
      else if advertised first = [] then .ok (.discovered [])
      else if second.sockets = [] then .error .undefinedBehaviour
      else .ok (.discovered (MdnsQuery.queryServices second.heard.flatten)) := by
  have discovery := discoverServices_result first
  obtain ⟨options, new⟩ := foldl_discoverCallback_kept first.heard.flatten {}
  have query := queryServices_result second _ options new
  by_cases none : first.sockets = []
  · rw [if_pos none] at discovery ⊢
    simp only [discoverInner, discovery]
  · rw [if_neg none] at discovery ⊢
    simp only [discoverInner, discovery, query]
    by_cases asked : advertised first = []
    · simp only [if_pos asked, show (first.heard.flatten.foldl CMDns.discoverCallback
        {}).advertisedServices = [] from asked, if_true]
    · simp only [if_neg asked, show (first.heard.flatten.foldl CMDns.discoverCallback
        {}).advertisedServices ≠ [] from asked, if_false]
      by_cases reached : second.sockets = []
      · simp only [if_pos reached]
      · simp only [if_neg reached]

/-- Where whole answers are what is first received, the servers are found in the order of the
sockets, each with its own port, whatever comes later. A discovery in which no reply is seen
to name the service finds none, and one whose query cannot be sent asks for an error that is
not there. -/
theorem whole_answers_found (first : Network (List Entry)) (second : Network (List Record)) :
    (∀ servers, Named [] first.heard.flatten → second.sockets ≠ [] →
      List.Forall₂ Whole servers second.heard →
      (discoverInner first second).1 = .ok (.discovered (servers.map server))) ∧
    (first.sockets ≠ [] → ¬ Named [] first.heard.flatten →
      (discoverInner first second).1 = .ok (.discovered [])) ∧
    ((discoverInner first second).1 = .error .undefinedBehaviour ↔
      Named [] first.heard.flatten ∧ second.sockets = []) := by
  have outcome := discoverInner_result first second
  have named : advertised first ≠ [] ↔ Named [] first.heard.flatten := advertised_iff first
  refine ⟨?_, ?_, ?_⟩
  · intro servers asked reached whole
    have opened : first.sockets ≠ [] :=
      fun none => named.mpr asked (advertised_eq_nil first none)
    have found : MdnsQuery.queryServices second.heard.flatten = servers.map server :=
      foldl_whole ⟨.inl rfl, rfl⟩ whole
    rw [outcome, if_neg opened, if_neg (named.mpr asked), if_neg reached, found]
  · intro opened silent
    rw [outcome, if_neg opened, if_pos (not_not.mp (mt named.mp silent))]
  · rw [outcome, ← named]
    constructor
    · intro undefined
      split at undefined
      next => cases undefined
      next =>
        split at undefined
        next => cases undefined
        next asked =>
          split at undefined
          next reached => exact ⟨asked, reached⟩
          next => cases undefined
    · rintro ⟨asked, reached⟩
      have opened : first.sockets ≠ [] := fun none => asked (advertised_eq_nil first none)
      rw [if_neg opened, if_neg asked, if_pos reached]

/-- A longer name that came before hides the service. -/
example : ¬ Named [] [⟨"printer._services._dns-sd._udp.local.", recordtypePtr, "printer"⟩,
    ⟨expectedEntryTypeName, recordtypePtr, serviceName⟩] := by
  decide +kernel

theorem whole_answers_found_of_office :
    (discoverInner officeServices officeServers).1 =
      .ok (.discovered [⟨"10.0.0.1", 50051, .ipv4⟩, ⟨"10.0.0.2", 50052, .ipv4⟩]) :=
  (whole_answers_found officeServices officeServers).1
    [("10.0.0.1", 50051), ("10.0.0.2", 50052)] (by decide +kernel) (by decide)
    (.cons (.inr rfl) (.cons (.inl rfl) .nil))

end Discovery

section Client

/-- The steps of the client's worker in `discover_inner`, with the answers of the system. -/
def workerSteps (first : Network (List Entry)) (second : Network (List Record)) :
    List AutoDiscovery.Label :=
  if first.sockets = [] then [.announce, .discoverServices (.error CMDns.noSockets)]
  else
    [.announce, .discoverServices (.ok ()),
      .queryServices
        (if advertised first = [] then some []
        else if second.sockets = [] then none
        else some second.heard.flatten)]

def Outcome.posts : Outcome → List AutoDiscovery.Posted
  | .discoverFailed error => [.discovering, .discoverFailed error]
  | .discovered found => [.discovering, .changeChannel found, .discovered found]

theorem emit_connected (client : AutoDiscovery.Client) (signals : List AutoDiscovery.Posted)
    (connected : client.connections = 5) :
    client.emit signals = { client with posted := client.posted ++ signals } := by
  have all : ∀ signal ∈ signals, decide (signal.connection ≤ client.connections) = true := by
    intro signal _
    rw [connected]
    cases signal <;> rfl
  rw [AutoDiscovery.Client.emit, List.filter_eq_self.mpr all]

/-- The worker of the client posts what the discovery finds, and goes wrong where it does. -/
theorem workerSteps_posts (first : Network (List Entry)) (second : Network (List Record))
    (client : AutoDiscovery.Client) (start : client.At .announcing)
    (connected : client.connections = 5) (undisturbed : client.interrupted = false) :
    match (discoverInner first second).1 with
    | .ok outcome =>
        ∃ next, Runs.run AutoDiscovery.step client (workerSteps first second) = .ok next ∧
          next.posted = client.posted ++ outcome.posts
    | .error _ =>
        Runs.run AutoDiscovery.step client (workerSteps first second) =
          .error .undefinedBehaviour := by
  let announced : AutoDiscovery.Client :=
    { client with search := .discovering, posted := client.posted ++ [.discovering] }
  let discovered : AutoDiscovery.Client := { announced with search := .querying }
  have announces : AutoDiscovery.step client .announce = .ok announced := by
    simp only [AutoDiscovery.step, if_pos start]
    exact congrArg Except.ok
      (emit_connected { client with search := .discovering } [.discovering] connected)
  have discovers : AutoDiscovery.step announced (.discoverServices (.ok ())) = .ok discovered := by
    simp only [AutoDiscovery.step]
    rw [if_pos ⟨start.1, rfl⟩, if_neg (by simp [announced, undisturbed])]
  have queries (records : List Record) :
      ∃ next, AutoDiscovery.step discovered (.queryServices (some records)) = .ok next ∧
        next.posted = client.posted ++
          (Outcome.discovered (MdnsQuery.queryServices records)).posts := by
    have emitted := emit_connected { discovered with search := .guarding }
      [.changeChannel (MdnsQuery.queryServices records),
        .discovered (MdnsQuery.queryServices records)] connected
    simp only [AutoDiscovery.step]
    rw [if_pos ⟨start.1, rfl⟩, emitted]
    exact ⟨_, rfl, by simp [discovered, announced, Outcome.posts]⟩
  rw [discoverInner_result, workerSteps]
  by_cases none : first.sockets = []
  · have emitted := emit_connected { announced with search := .returning }
      [.discoverFailed CMDns.noSockets] connected
    simp only [if_pos none]
    rw [Runs.run_cons_ok _ announces]
    simp only [Runs.run, AutoDiscovery.step]
    rw [if_pos ⟨start.1, rfl⟩, emitted]
    exact ⟨_, rfl, by simp [announced, Outcome.posts]⟩
  · simp only [if_neg none, Runs.run, announces, discovers]
    by_cases asked : advertised first = []
    · obtain ⟨next, taken, posted⟩ := queries []
      simp only [if_pos asked, taken]
      exact ⟨next, rfl, posted⟩
    · simp only [if_neg asked]
      by_cases reached : second.sockets = []
      · simp only [if_pos reached, AutoDiscovery.step]
        rw [if_pos ⟨start.1, rfl⟩]
      · obtain ⟨next, taken, posted⟩ := queries second.heard.flatten
        simp only [if_neg reached, taken]
        exact ⟨next, rfl, posted⟩

end Client

end SaneInTheMembrane.MdnsDiscovery

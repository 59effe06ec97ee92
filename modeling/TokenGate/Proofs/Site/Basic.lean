import Mathlib.Logic.Function.Basic
import TokenGate.Connector

/-! Connectors that share one memory of the key, however many there are. Each of them has a token,
a spare token and a clock of its own; whose turn it is, and for what, is told by the work.
-/

set_option autoImplicit false

namespace TokenGate

structure Site (ι : Type) where
  keys : KeySource
  member : ι → Connector
  validated : ∀ i, (member i).validator.keys = keys
  provided : ∀ i, (member i).provider.keys = keys

namespace Site

structure Own where
  token : Option Text
  calls : List TokenCall
  spare : Option Text
  now : Value

def Own.of (c : Connector.State) : Own := ⟨c.provider.token, c.provider.calls, c.spare, c.now⟩

@[simp] theorem Own.of_token (c : Connector.State) : (Own.of c).token = c.provider.token := rfl

@[simp] theorem Own.of_calls (c : Connector.State) : (Own.of c).calls = c.provider.calls := rfl

structure State (ι : Type) where
  keys : KeyMemory
  own : ι → Own

variable {ι : Type}

namespace State

def seenBy (s : State ι) (i : ι) : Connector.State :=
  ⟨⟨s.keys, (s.own i).token, (s.own i).calls⟩, (s.own i).spare, (s.own i).now⟩

@[simp] theorem seenBy_token (s : State ι) (i : ι) :
    (s.seenBy i).provider.token = (s.own i).token := rfl

@[simp] theorem seenBy_calls (s : State ι) (i : ι) :
    (s.seenBy i).provider.calls = (s.own i).calls := rfl

variable [DecidableEq ι]

def leftBy (s : State ι) (i : ι) (c : Connector.State) : State ι :=
  ⟨c.provider.keys, Function.update s.own i (.of c)⟩

@[simp] theorem leftBy_seenBy (s : State ι) (i : ι) : s.leftBy i (s.seenBy i) = s := by
  simp [leftBy, seenBy, Own.of]

@[simp] theorem leftBy_own (s : State ι) (i : ι) (c : Connector.State) :
    (s.leftBy i c).own i = .of c := by
  simp [leftBy]

@[simp] theorem seenBy_leftBy (s : State ι) (i : ι) (c : Connector.State) :
    (s.leftBy i c).seenBy i = c := by
  simp [leftBy, seenBy, Own.of]

theorem leftBy_own_of_ne {i j : ι} (other : j ≠ i) (s : State ι) (c : Connector.State) :
    (s.leftBy i c).own j = s.own j := by
  simp [leftBy, Function.update_of_ne other]

end State

def start : State ι := ⟨.empty, fun _ => ⟨none, [], none, .null⟩⟩

structure Event (ι : Type) where
  actor : ι
  op : Connector.Operation
  before : State ι
  outcome : Except Fault Connector.Result
  after : State ι

variable [DecidableEq ι]

def event (site : Site ι) (s : State ι) (i : ι) (op : Connector.Operation) : Event ι :=
  let turn := (site.member i).step (s.seenBy i) op
  ⟨i, op, s, turn.1, s.leftBy i turn.2⟩

@[simp] theorem event_before (site : Site ι) (s : State ι) (i : ι) (op : Connector.Operation) :
    (site.event s i op).before = s := rfl

def trace (site : Site ι) : State ι → List (ι × Connector.Operation) → List (Event ι)
  | _, [] => []
  | s, (i, op) :: rest =>
    let e := site.event s i op
    e :: site.trace e.after rest

theorem mem_trace {site : Site ι} {s : State ι} {work : List (ι × Connector.Operation)}
    {e : Event ι} (member : e ∈ site.trace s work) :
    ∃ s i op, e = site.event s i op := by
  induction work generalizing s with
  | nil => cases member
  | cons turn rest ih =>
    rcases List.mem_cons.mp member with rfl | later
    · exact ⟨s, turn.1, turn.2, rfl⟩
    · exact ih later

def reached (site : Site ι) : State ι → List (ι × Connector.Operation) → State ι
  | s, [] => s
  | s, (i, op) :: rest => site.reached (site.event s i op).after rest

theorem alone_eq_run (site : Site ι) (i : ι) (s : State ι) (ops : List Connector.Operation) :
    let work := ops.map fun op => (i, op)
    ((site.trace s work).map Event.outcome, (site.reached s work).seenBy i) =
      (site.member i).run (s.seenBy i) ops := by
  induction ops generalizing s with
  | nil => rfl
  | cons op rest ih =>
    have later := ih (site.event s i op).after
    have same : (site.event s i op).after.seenBy i =
        ((site.member i).step (s.seenBy i) op).2 := s.seenBy_leftBy i _
    rw [same] at later
    simp only [List.map_cons, trace, reached, Connector.run, ← later]
    rfl

def offline : Site Bool where
  keys := ⟨"", some "k", 10, fun _ => .failed⟩
  member _ :=
    let keys : KeySource := ⟨"", some "k", 10, fun _ => .failed⟩
    let answers (n : Nat) := if n = 0 then .ok "t" else .error .tokenMissing
    ⟨⟨keys, [], ["RS256"]⟩, ⟨keys, ["RS256"], .prepared answers, ""⟩⟩
  validated _ := rfl
  provided _ := rfl

end Site

end TokenGate

import TokenGate.Message.Payload

/-! A payload is read once. The first reading takes all there is, whatever becomes of it, and
nothing is no JSON; so the later ones fail alike, whatever the shape they ask for and whatever the
payload was.
-/

set_option autoImplicit false

namespace TokenGate.Payload

def Target.unreadable (target : Target) : Except Fault Content :=
  .error (.payloadUnreadable target.name)

namespace Stream

variable {s : Stream}

def Spent (s : Stream) : Prop := s.characters? = some []

theorem exhausted_spent (s : Stream) : s.exhausted.Spent := by
  cases s <;> rfl

theorem content?_of_spent (spent : s.Spent) (target : Target) : s.content? target = none := by
  have unread : (Json.read dialect []).toOption = none := rfl
  have pairless : (Json.readPairs dialect []).toOption = none := rfl
  have characters : s.characters? = some [] := spent
  cases target <;>
    simp [content?, characters, unread, pairless]

theorem readAs_outcome (s : Stream) (target : Target) :
    (∃ content, (s.readAs target).1 = .ok content) ∨ (s.readAs target).1 = target.unreadable := by
  unfold readAs
  cases s.content? target with
  | none => exact .inr rfl
  | some content => exact .inl ⟨content, rfl⟩

theorem readAs_of_spent (spent : s.Spent) (target : Target) :
    s.readAs target = (target.unreadable, s.exhausted) := by
  simp only [readAs, content?_of_spent spent, Target.unreadable]

/-- Step by step nothing comes back into the stream. -/
theorem readAll_of_spent (spent : s.Spent) (targets : List Target) :
    s.readAll targets = targets.map Target.unreadable := by
  induction targets generalizing s with
  | nil => rfl
  | cons target rest ih =>
    simp only [readAll, readAs_of_spent spent, ih s.exhausted_spent, List.map_cons]

theorem readAll_cons (s : Stream) (first : Target) (rest : List Target) :
    s.readAll (first :: rest) = (s.readAs first).1 :: rest.map Target.unreadable := by
  rw [readAll]
  exact congrArg _ (readAll_of_spent s.exhausted_spent rest)

/-- Whatever a stream holds and whatever shapes are asked for, one after another: the first reading
succeeds or fails, and all others fail, each of them by the name of its own shape. They tell nothing
of what the stream held. -/
theorem read_at_most_once (s : Stream) (first : Target) (rest : List Target) :
    (∃ outcome, s.readAll (first :: rest) = outcome :: rest.map Target.unreadable ∧
      ((∃ content, outcome = .ok content) ∨ outcome = first.unreadable)) ∧
    (∀ other : Stream, (other.readAll (first :: rest)).tail = (s.readAll (first :: rest)).tail) ∧
    ∀ target : Target, ∃ fault, target.unreadable = .error fault ∧
      fault.kind = .payloadDeserialization ∧
      fault.message = "Cannot read payload as " ++ target.name := by
  refine ⟨⟨_, s.readAll_cons first rest, s.readAs_outcome first⟩, fun other => ?_,
    fun target => ⟨_, rfl, rfl, rfl⟩⟩
  rw [readAll_cons, readAll_cons, List.tail_cons, List.tail_cons]

-- The text says null, which is read as such; what is left of it is not even anything.
example : ((text "null").readAll [.null, .any, .null]).map Except.isOk =
    [true, false, false] := by
  decide

end Stream

end TokenGate.Payload

import Mathlib.Data.List.Forall2
import TokenGate.Proofs.Service.Admission

/-! What a sender can learn about a body, and what a body can bring about. Bodies count for nothing
but the replies to the messages that are let in, and these replies tell nothing but the body and the
sender.
-/

set_option autoImplicit false

namespace TokenGate

/-- Requests that the gate cannot tell apart before it looks at their bodies. -/
structure Request.Alike (r other : Request) : Prop where
  method : r.method = other.method
  path : r.path = other.path
  authorization : r.header "Authorization" = other.header "Authorization"

theorem Request.Alike.symm {r other : Request} (alike : r.Alike other) : other.Alike r :=
  ⟨alike.method.symm, alike.path.symm, alike.authorization.symm⟩

theorem Request.Alike.token?_eq {r other : Request} (alike : r.Alike other) :
    r.token? = other.token? := congrArg Request.bearer? alike.authorization

namespace Gate

variable {v : Validator} {now : Value} {r other : Request} {m : KeyMemory} {claims : Members}

def Accepts (v : Validator) (now : Value) (r : Request) (m : KeyMemory) (claims : Members) : Prop :=
  ∃ token, r.token? = some token ∧ (v.decodeClaims token m).1 = .ok claims ∧
    v.chain.Passes now (.object claims)

theorem accepts_iff : Accepts v now r m claims ↔ (authorize v now r m).1 = .ok claims := by
  constructor
  · rintro ⟨token, presented, decoded, passes⟩
    have authorized := authorize_eq_ok_iff.mpr ⟨token, presented, Prod.ext decoded rfl, passes⟩
    rw [authorized]
  · intro authorized
    obtain ⟨token, presented, decoded, passes⟩ := authorize_eq_ok_iff.mp (Prod.ext authorized rfl)
    exact ⟨token, presented, by rw [decoded], passes⟩

theorem authorize_congr (same : r.token? = other.token?) :
    authorize v now r m = authorize v now other m := by
  simp only [authorize, same]

theorem receive_of_accepts (accepts : Accepts v now r m claims) :
    (receive v now r m).1 = acknowledge (Members.get? claims "sub") r.body := by
  have authorized : authorize v now r m = (.ok claims, (authorize v now r m).2) :=
    Prod.ext (accepts_iff.mp accepts) rfl
  rw [receive_of_authorized authorized]

theorem receive_congr_memory (same : r.token? = other.token?) :
    (receive v now r m).2 = (receive v now other m).2 := by
  rw [receive_memory, receive_memory, authorize_congr same]

/-- A body is not looked at before the token in front of it is accepted. -/
theorem receive_congr (same : r.token? = other.token?)
    (refused : ∀ claims, ¬ Accepts v now r m claims) :
    receive v now r m = receive v now other m := by
  rw [receive, receive, ← authorize_congr same]
  rcases authorized : authorize v now r m with ⟨reply | claims, n⟩
  · rfl
  · exact absurd (accepts_iff.mpr (by rw [authorized])) (refused claims)

end Gate

namespace App

variable {app : App} {v : Validator} {now : Value} {r other : Request} {m : KeyMemory}
  {requests others : List (Value × Request)}

theorem IsMessage.of_alike (posted : IsMessage r) (alike : r.Alike other) : IsMessage other := by
  obtain ⟨method, path⟩ := posted
  have location : r.location = other.location := by rw [Request.location, alike.path]; rfl
  exact ⟨alike.method ▸ method, location ▸ path⟩

theorem handle_congr_memory (ready : app.validator = some v) (alike : r.Alike other) :
    (app.handle now r m).2 = (app.handle now other m).2 := by
  by_cases posted : IsMessage r
  · rw [handle_message ready posted, handle_message ready (posted.of_alike alike)]
    exact Gate.receive_congr_memory alike.token?_eq
  · have aside : ¬ IsMessage other := fun other => posted (other.of_alike alike.symm)
    rw [handle_memory_of_aside posted, handle_memory_of_aside aside]

/-- The requests of two runs come at the same times and differ in their bodies alone. -/
def SameButBodies (requests others : List (Value × Request)) : Prop :=
  List.Forall₂ (fun a b => a.1 = b.1 ∧ a.2.Alike b.2) requests others

theorem SameButBodies.memoryAfter_eq (ready : app.validator = some v)
    (same : SameButBodies requests others) :
    app.memoryAfter requests m = app.memoryAfter others m := by
  -- Both runs have one memory before each pair of requests, and so one after it.
  induction same generalizing m with
  | nil => rfl
  | cons first _ ih =>
    obtain ⟨time, alike⟩ := first
    rw [memoryAfter, memoryAfter, time, handle_congr_memory ready alike]
    exact ih

theorem SameButBodies.getElem? (same : SameButBodies requests others) {i : Nat}
    (sent : requests[i]? = some (now, r)) :
    ∃ other, others[i]? = some (now, other) ∧ r.Alike other := by
  induction same generalizing i with
  | nil => cases sent
  | @cons a b _ _ first _ ih =>
    cases i with
    | zero =>
      obtain ⟨time, alike⟩ := first
      cases sent
      exact ⟨b.2, congrArg some (Prod.ext time.symm rfl), alike⟩
    | succ i => exact ih sent

/-- Two runs whose requests differ in bodies alone leave the same memory of the key behind every
request, and reply the same to every message whose token is not accepted. To a message that is
accepted, in whatever service and after whatever requests, the reply is told by its body and by the
subject that its token names, and by nothing else. -/
theorem body_told_only_if_accepted :
    (∀ (app : App) (v : Validator) (requests others : List (Value × Request)) (m : KeyMemory),
      app.validator = some v → SameButBodies requests others →
      (∀ i, app.memoryAfter (requests.take i) m = app.memoryAfter (others.take i) m) ∧
      ∀ i now r, requests[i]? = some (now, r) → IsMessage r →
        (∀ claims, ¬ Gate.Accepts v now r (app.memoryAfter (requests.take i) m) claims) →
        (app.run requests m)[i]? = (app.run others m)[i]?) ∧
    ∃ respond : Option Value → Bytes → Reply,
      ∀ (app : App) (v : Validator) (requests : List (Value × Request)) (m : KeyMemory),
        app.validator = some v → ∀ i now r claims, requests[i]? = some (now, r) → IsMessage r →
        Gate.Accepts v now r (app.memoryAfter (requests.take i) m) claims →
        (app.run requests m)[i]?.map Prod.fst =
          some (respond (Members.get? claims "sub") r.body) := by
  constructor
  · intro app v requests others m ready same
    -- What is looked up for a request never depends on its body.
    have memory : ∀ i, app.memoryAfter (requests.take i) m = app.memoryAfter (others.take i) m :=
      fun i => SameButBodies.memoryAfter_eq ready (List.forall₂_take i same)
    refine ⟨memory, ?_⟩
    intro i now r sent posted refused
    obtain ⟨other, sentToo, alike⟩ := same.getElem? sent
    have postedToo := posted.of_alike alike
    rw [run_getElem?, run_getElem?, sent, sentToo, Option.map_some, Option.map_some, ← memory,
      handle_message ready posted, handle_message ready postedToo]
    exact congrArg some (Gate.receive_congr alike.token?_eq refused)
  · refine ⟨Gate.acknowledge, ?_⟩
    intro app v requests m ready i now r claims sent posted accepts
    rw [run_getElem?, sent, Option.map_some, Option.map_some, handle_message ready posted,
      Gate.receive_of_accepts accepts]

def emptiedPost : Request := { samplePost with body := [] }

theorem emptiedPost_told_alike :
    let late := [(Value.int 9, samplePost)]
    let lateToo := [(Value.int 9, emptiedPost)]
    let timely := [(Value.int 9, emptiedPost), (Value.int 0, samplePost)]
    (sampleApp.run late .empty)[0]? = (sampleApp.run lateToo .empty)[0]? ∧
    (∃ reply, (sampleApp.run timely .empty)[1]?.map Prod.fst = some reply ∧ reply.status = 200 ∧
      (sampleApp.run [(.int 0, samplePost)] .empty)[0]?.map Prod.fst = some reply) := by
  intro late lateToo timely
  let v := sampleConfig.validator fun _ => sampleSet
  have computed :
      let accepted (now : Value) (m : KeyMemory) :=
        (Gate.authorize v now samplePost m).1.toOption.map
          fun claims => (Members.get? claims "sub").map (Value.isText "s")
      accepted (.int 9) .empty = none ∧ accepted (.int 0) .empty = some (some true) ∧
        accepted (.int 0) (sampleApp.memoryAfter lateToo .empty) = some (some true) ∧
        ((sampleApp.run [(.int 0, samplePost)] .empty)[0]?.map fun e => e.1.status) = some 200 := by
    decide +kernel
  obtain ⟨refused, first, second, status⟩ := computed
  have ready : sampleApp.validator = some v := rfl
  have posted : IsMessage samplePost := ⟨List.mem_singleton_self _, by decide +kernel⟩
  have accepts : ∀ m, ((Gate.authorize v (.int 0) samplePost m).1.toOption.map
      fun claims => (Members.get? claims "sub").map (Value.isText "s")) = some (some true) →
      ∃ claims, Gate.Accepts v (.int 0) samplePost m claims ∧
        Members.get? claims "sub" = some (.str "s") := by
    intro m accepted
    obtain ⟨claims, authorized, named⟩ := Option.map_eq_some_iff.mp accepted
    obtain ⟨sub, found, text⟩ := Option.map_eq_some_iff.mp named
    rw [Value.isText_iff.mp text] at found
    exact ⟨claims, Gate.accepts_iff.mpr (toOption_eq_some_iff.mp authorized), found⟩
  have same : SameButBodies late lateToo := .cons ⟨rfl, rfl, rfl, rfl⟩ .nil
  obtain ⟨untold, respond, told⟩ := body_told_only_if_accepted
  constructor
  · refine (untold sampleApp v late lateToo .empty ready same).2 0 (.int 9) samplePost rfl posted ?_
    intro claims accepted
    have authorized : (Gate.authorize v (.int 9) samplePost .empty).1 = .ok claims :=
      Gate.accepts_iff.mp accepted
    dsimp only at refused
    rw [authorized] at refused
    cases refused
  · obtain ⟨claims, accepted, sub⟩ := accepts _ first
    obtain ⟨claimsToo, acceptedToo, subToo⟩ := accepts _ second
    have reply := told sampleApp v [(.int 0, samplePost)] .empty ready 0 (.int 0) samplePost claims
      rfl posted accepted
    have replyToo := told sampleApp v timely .empty ready 1 (.int 0) samplePost claimsToo rfl posted
      acceptedToo
    rw [sub] at reply
    rw [subToo] at replyToo
    refine ⟨respond (some (.str "s")) samplePost.body, replyToo, ?_, reply⟩
    obtain ⟨entry, answered, ok⟩ := Option.map_eq_some_iff.mp status
    rw [answered, Option.map_some, Option.some.injEq] at reply
    rw [← reply, ok]

end App

end TokenGate

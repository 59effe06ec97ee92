import TokenGate.Proofs.Service.Assembly
import TokenGate.Proofs.Service.Judgement
import TokenGate.Proofs.Text.Letters

/-! The token of a message, told from its headers as they are sent. Blanks around the token do not
belong to it and all else behind the scheme does; a message without one is refused before anything
is fetched for it.
-/

set_option autoImplicit false

namespace TokenGate

namespace Request

/-- The text of the first header with a name in any case of letters; an empty one if there is
none. -/
inductive FirstText (name : List Char) : List (String × String) → List Char → Prop where
  | absent : FirstText name [] []
  | here {field text : String} {rest : List (String × String)} :
      Text.InAnyCase field.toList name → FirstText name ((field, text) :: rest) text.toList
  | later {field text : String} {rest : List (String × String)} {found : List Char} :
      ¬ Text.InAnyCase field.toList name → FirstText name rest found →
      FirstText name ((field, text) :: rest) found

/-- A header with a token: the scheme in any case of letters, a space, and the token with any blanks
around it. -/
def Bears (header token : List Char) : Prop :=
  ∃ scheme rest, header = scheme ++ ' ' :: rest ∧ Text.InAnyCase scheme "bearer".toList ∧
    Text.Pads token rest ∧ Text.Bare token

variable {r : Request} {header token scheme cs : List Char}

theorem isAuthorization_iff : Text.InAnyCase cs "authorization".toList ↔
    (Text.smalls cs == Text.smalls "Authorization".toList) = true := by
  rw [Text.inAnyCase_iff (by simp), beq_iff_eq]
  rfl

theorem firstText_iff :
    FirstText "authorization".toList r.headers cs ↔ cs = r.header "Authorization" := by
  unfold Request.header
  induction r.headers with
  | nil =>
    constructor
    · rintro ⟨⟩
      rfl
    · rintro rfl
      exact .absent
  | cons first rest ih =>
    obtain ⟨field, text⟩ := first
    -- A header of that name settles the matter, as it ends the search; any other is passed over.
    by_cases named : Text.InAnyCase field.toList "authorization".toList
    · simp only [List.find?_cons, isAuthorization_iff.mp named]
      constructor
      · intro found
        cases found with
        | here => rfl
        | later other => exact absurd named other
      · rintro rfl
        exact .here named
    · have other := Bool.eq_false_iff.mpr (mt isAuthorization_iff.mpr named)
      simp only [List.find?_cons, other]
      rw [← ih]
      constructor
      · intro found
        cases found with
        | here same => exact absurd same named
        | later _ found => exact found
      · exact .later named

theorem isBearer_iff :
    Text.InAnyCase scheme "bearer".toList ↔ Text.smalls scheme = "bearer".toList :=
  Text.inAnyCase_iff (by simp)

theorem space_not_mem (spelled : Text.smalls scheme = "bearer".toList) : ' ' ∉ scheme := by
  intro member
  have small : Text.small ' ' ∈ Text.smalls scheme := List.mem_map_of_mem member
  rw [spelled] at small
  exact absurd small (by decide)

/-- What is cut at the first space and trimmed is what bears the token. -/
theorem bears_iff : Bears header token ↔
    ∃ scheme rest, header = scheme ++ ' ' :: rest ∧ ' ' ∉ scheme ∧
      Text.smalls scheme = "bearer".toList ∧ Text.trim rest = token ∧ token ≠ [] := by
  unfold Bears
  refine exists_congr fun scheme => exists_congr fun rest => and_congr_right fun _ => ?_
  rw [isBearer_iff, Text.trim_eq_iff]
  exact ⟨fun ⟨spelled, between⟩ => ⟨space_not_mem spelled, spelled, between⟩, And.right⟩

theorem bearer?_eq_some_iff : bearer? header = some token ↔ Bears header token := by
  rw [bears_iff]
  constructor
  · intro taken
    unfold bearer? at taken
    split at taken
    · cases taken
    · next scheme rest cut =>
      split at taken
      · next borne =>
        cases taken
        obtain ⟨whole, absent⟩ := Text.cutFirst_eq_some cut
        exact ⟨scheme, rest, whole, absent, borne.1, rfl, borne.2⟩
      · cases taken
  · rintro ⟨scheme, rest, rfl, absent, spelled, rfl, something⟩
    rw [bearer?, Text.cutFirst_append absent]
    exact if_pos ⟨spelled, something⟩

end Request

namespace Assembly

variable {a s : Assembly} {v : Validator} {r : Request} {now : Value}
  {env : Environment} {file : String → Except Kind String} {script posts : Script}

theorem withMemory_memory (a : Assembly) : a.withMemory a.memory = a := by
  obtain ⟨count, caches, validator, provider⟩ := a
  cases validator with
  | none => rfl
  | some part =>
    have same : caches.set part.cache caches[part.cache] = caches :=
      Vector.set_getElem_self part.cache.isLt
    exact congrArg (fun kept => (⟨count, kept, some part, provider⟩ : Assembly)) same

theorem validator?_after_start (started : a.start env file script posts = .ok s)
    (requests : List (Value × Request)) : ∃ v, (s.after requests).validator? = some v := by
  have built : s.validator.isSome = true := by
    rcases start_cases started with ⟨⟨part, present⟩, rfl⟩ | ⟨-, c, e, -, -, rfl⟩
    · rw [present, Option.isSome_some]
    · cases e.provider.map ProviderPart.cache <;> rfl
  rw [← validator_isSome_after s requests] at built
  obtain ⟨part, found⟩ := Option.isSome_iff_exists.mp built
  exact ⟨_, by rw [validator?, found]; rfl⟩

theorem respond_of_missing (ready : a.validator? = some v) (posted : App.IsMessage r)
    (missing : r.token? = none) :
    a.respond now r = ((.stated 401 (.str "Missing DAT"), []), a) := by
  have handled : a.app.handle now r a.memory = (.stated 401 (.str "Missing DAT"), a.memory) := by
    rw [App.handle_message ready posted, Gate.receive_of_missing missing]
  -- The memory is written back although it is the same.
  have nothing : a.gets a.memory = [] := by
    simp only [gets, ready, KeySource.gets, Nat.sub_self, List.replicate_zero]
  simp only [respond, handled, nothing, withMemory_memory]

theorem respond_of_token {token : List Char} (ready : a.validator? = some v)
    (posted : App.IsMessage r) (presented : r.token? = some token) :
    (a.respond now r).1.2 = v.keys.gets a.memory (v.validate now token a.memory).2 ∧
      Gate.Conveys r.body (v.subject? token a.memory) (v.validate now token a.memory).1
        (a.respond now r).1.1 := by
  obtain ⟨left, conveys⟩ : (Gate.receive v now r a.memory).2 = (v.validate now token a.memory).2 ∧
      Gate.Conveys r.body (v.subject? token a.memory) (v.validate now token a.memory).1
        (Gate.receive v now r a.memory).1 :=
    Gate.receive_conveys presented
  have handled : a.app.handle now r a.memory = Gate.receive v now r a.memory :=
    App.handle_message ready posted
  simp only [respond, handled, gets, ready, left]
  exact ⟨trivial, conveys⟩

/-- A service that has started takes the token of a message from its first authorization header:
what stands behind the scheme and the first space, without the blanks around it. The message is
answered as this token is judged. If the header bears no token, the message is refused without a
fetch, and leaves nothing behind. -/
theorem message_told_by_token (started : a.start env file script posts = .ok s)
    (requests : List (Value × Request)) (now : Value) (posted : App.IsMessage r) :
    let service := s.after requests
    ∃ v header, service.validator? = some v ∧
      (∀ text, Request.FirstText "authorization".toList r.headers text ↔ text = header) ∧
      (∀ token, r.token? = some token ↔
        ∃ scheme rest, header = scheme ++ ' ' :: rest ∧ ' ' ∉ scheme ∧
          Text.smalls scheme = "bearer".toList ∧ Text.trim rest = token ∧ token ≠ []) ∧
      (∀ token, Request.Bears header token → r.token? = some token ∧
        (service.respond now r).1.2 =
          v.keys.gets service.memory (v.validate now token service.memory).2 ∧
        Gate.Conveys r.body (v.subject? token service.memory)
          (v.validate now token service.memory).1 (service.respond now r).1.1) ∧
      ((∀ token, ¬ Request.Bears header token) →
        service.respond now r = ((.stated 401 (.str "Missing DAT"), []), service)) := by
  intro service
  obtain ⟨v, ready⟩ := validator?_after_start started requests
  refine ⟨v, r.header "Authorization", ready, fun _ => Request.firstText_iff, ?_, ?_, ?_⟩
  · intro token
    rw [Request.token?, Request.bearer?_eq_some_iff, Request.bears_iff]
  · intro token bears
    have presented : r.token? = some token := Request.bearer?_eq_some_iff.mpr bears
    exact ⟨presented, respond_of_token ready posted presented⟩
  · intro bare
    have missing : r.token? = none := by
      rw [Option.eq_none_iff_forall_ne_some]
      exact fun token taken => bare token (Request.bearer?_eq_some_iff.mp taken)
    exact respond_of_missing ready posted missing

def secluded : Assembly := bare.addValidator App.sampleConfig (fun _ => .failed) none

def crookedPost : Request :=
  ⟨"POST", "/messages", [("Host", "h"), ("AUTHORIZATION", "bEARer \t t u\u00a0"),
    ("Authorization", "Bearer x")], []⟩

def tabbedPost : Request := ⟨"POST", "/messages", [("Authorization", "Bearer\tx y")], []⟩

theorem crookedPost_told :
    crookedPost.token? = some "t u".toList ∧
    (secluded.respond (.int 0) crookedPost).1.2 = [⟨"", 10⟩] ∧
    ((secluded.after [(.int 0, crookedPost)]).respond (.int 0) tabbedPost).1 =
      (.stated 401 (.str "Missing DAT"), []) := by
  have started : secluded.start [] (fun _ => .error .fileNotFound) (fun _ => .failed)
      (fun _ => .failed) = .ok secluded := rfl
  have posted : App.IsMessage crookedPost := ⟨List.mem_singleton_self _, rfl⟩
  have postedToo : App.IsMessage tabbedPost := ⟨List.mem_singleton_self _, rfl⟩
  obtain ⟨v, header, ready, first, -, told, -⟩ :=
    message_told_by_token started [] (.int 0) posted
  obtain ⟨-, other, -, firstToo, -, -, refused⟩ :=
    message_told_by_token started [(.int 0, crookedPost)] (.int 0) postedToo
  have read : header = "bEARer \t t u\u00a0".toList :=
    ((first _).mp (Request.firstText_iff.mpr rfl)).symm
  have readToo : other = "Bearer\tx y".toList :=
    ((firstToo _).mp (Request.firstText_iff.mpr rfl)).symm
  have bears : Request.Bears header "t u".toList := by
    refine ⟨"bEARer".toList, "\t t u\u00a0".toList, read, ?_, ?_, ?_⟩
    · exact Request.isBearer_iff.mpr (by decide)
    · exact ⟨['\t', ' '], ['\u00a0'], by decide, by decide, rfl⟩
    · exact ⟨⟨'t', rfl, rfl⟩, ⟨'u', rfl, rfl⟩⟩
  have bare : ∀ token, ¬ Request.Bears other token := by
    intro token bears
    have taken := Request.bearer?_eq_some_iff.mpr bears
    rw [readToo] at taken
    cases taken
  obtain ⟨presented, gets, -⟩ := told _ bears
  cases ready
  exact ⟨presented, gets.trans (by decide +kernel), congrArg Prod.fst (refused bare)⟩

end Assembly

end TokenGate

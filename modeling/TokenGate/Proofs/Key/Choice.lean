import TokenGate.Proofs.Key.Serving

/-! What in a key set has a part in the choice of the key: the first object that may be taken, and
nothing else. Entries that may not be taken can stand anywhere or be left out, and whatever comes
behind the first one that may does not even replace it if it is no usable key.
-/

set_option autoImplicit false

namespace TokenGate.KeySet

/-- An entry that may not be taken: one without the wanted name, or one that is no object. -/
def Foreign (wanted : Option Text) (entry : Value) : Prop :=
  ∀ ms, entry = .object ms → ¬ Selectable wanted ms

/-- Two lists with the same entries in the same order, up to foreign ones in either of them. -/
inductive SameButForeign (wanted : Option Text) : List Value → List Value → Prop where
  | nil : SameButForeign wanted [] []
  | both (entry : Value) {items others : List Value} : SameButForeign wanted items others →
      SameButForeign wanted (entry :: items) (entry :: others)
  | left {entry : Value} {items others : List Value} : Foreign wanted entry →
      SameButForeign wanted items others → SameButForeign wanted (entry :: items) others
  | right {entry : Value} {items others : List Value} : Foreign wanted entry →
      SameButForeign wanted items others → SameButForeign wanted items (entry :: others)

inductive TakenAs (ms : Members) : Except Fault PublishedKey → Prop where
  | key {key : PublishedKey} : PublishedKey.ofMembers ms = .ok key →
      key.kid = PublishedKey.member ms "kid" → TakenAs ms (.ok key)
  | unusable : PublishedKey.ofMembers ms = .error .unusable →
      TakenAs ms (.error (.keyUnusable (PublishedKey.member ms "kid")))
  | crash {kind : Kind} : PublishedKey.ofMembers ms = .error (.crash kind) →
      TakenAs ms (.error (.crash kind))

variable {wanted : Option Text} {items others before after : List Value} {ms document : Members}
  {entry : Value} {kid : Text}

theorem foreign_named_iff : Foreign (some kid) entry ↔
    ∀ ms, entry = .object ms → Members.get? ms "kid" ≠ some (.str kid) := by
  simp [Foreign, Selectable]

theorem foreign_or_selectable (wanted : Option Text) (entry : Value) :
    Foreign wanted entry ∨ ∃ ms, entry = .object ms ∧ Selectable wanted ms := by
  by_cases taken : ∃ ms, entry = .object ms ∧ Selectable wanted ms
  · exact .inr taken
  · exact .inl fun ms same selected => taken ⟨ms, same, selected⟩

theorem parse_takenAs (ms : Members) : TakenAs ms (parse ms) := by
  unfold parse
  split
  · next parsed => exact .key parsed (PublishedKey.ofMembers_kid parsed)
  · next refused => exact .unusable refused
  · next crashed => exact .crash crashed

theorem select_of_list (listed : Members.get? document "keys" = some (.list items)) :
    select wanted document = choose wanted items := by
  simp only [select, entries, listed, bind, Except.bind]

theorem SameButForeign.choose_eq (same : SameButForeign wanted items others) :
    choose wanted items = choose wanted others := by
  induction same with
  | nil => rfl
  | both entry _ ih =>
    rcases foreign_or_selectable wanted entry with foreign | ⟨ms, rfl, selected⟩
    · rw [choose_passed foreign, choose_passed foreign, ih]
    · -- Both lists begin with the object that settles them, so that their rests do not count.
      have settles : ∀ rest, Settles wanted (.object ms :: rest) ms :=
        fun rest => ⟨[], rest, rfl, by simp, selected⟩
      rw [(settles _).choose_eq, (settles _).choose_eq]
  | left foreign _ ih => rw [choose_passed foreign, ih]
  | right foreign _ ih => rw [choose_passed foreign, ih]

theorem settles_of_foreign (passed : ∀ entry ∈ before, Foreign wanted entry)
    (selected : Selectable wanted ms) : Settles wanted (before ++ .object ms :: after) ms :=
  ⟨before, after, rfl, fun other member => passed _ member other rfl, selected⟩

/-- Lists that are the same up to foreign entries give the same key or end in the same fault. The
first object that may be taken decides alone, whatever foreign entries stand before it and whatever
entries behind it: if it is no usable key, none is found. -/
theorem first_match_decides (wanted : Option Text) :
    (∀ items others, SameButForeign wanted items others →
      ∀ document other, Members.get? document "keys" = some (.list items) →
        Members.get? other "keys" = some (.list others) →
        select wanted document = select wanted other) ∧
    (∀ ms, Selectable wanted ms → ∃ outcome, TakenAs ms outcome ∧
      ∀ before after, (∀ entry ∈ before, Foreign wanted entry) →
        ∀ document, Members.get? document "keys" = some (.list (before ++ .object ms :: after)) →
          select wanted document = outcome) ∧
    ∀ items, (∀ entry ∈ items, Foreign wanted entry) →
      ∀ document, Members.get? document "keys" = some (.list items) →
        select wanted document = .error (.keyNotFound wanted) := by
  refine ⟨?_, ?_, ?_⟩
  · intro items others same document other listed listedToo
    rw [select_of_list listed, select_of_list listedToo, same.choose_eq]
  · intro ms selected
    -- The outcome is told before the other entries are, so it cannot depend on them.
    refine ⟨parse ms, parse_takenAs ms, ?_⟩
    intro before after passed document listed
    rw [select_of_list listed, (settles_of_foreign passed selected).choose_eq]
  · intro items passed document listed
    rw [select_of_list listed]
    exact choose_eq_notFound fun ms member => passed _ member ms rfl

def listing (entries : List Value) : Members := [("keys", .list entries)]

def secretNamed (kid : Text) : Value :=
  .object [("kid", .str kid), ("kty", .str "oct"), ("k", .str "AAAA")]

def keylessNamed (kid : Text) : Value := .object [("kid", .str kid)]

theorem keyless_first_match_decides :
    let crowded := [.null, secretNamed "j", keylessNamed "k", secretNamed "k"]
    select (some "k") (listing crowded) = .error (.keyUnusable (.str "k")) ∧
    select (some "k") (listing crowded) =
      select (some "k") (listing [keylessNamed "k", .int 0, secretNamed "k"]) ∧
    select none (listing crowded) = select none (listing [secretNamed "j"]) ∧
    select (some "l") (listing crowded) = .error (.keyNotFound (some "l")) := by
  intro crowded
  have nothing : ∀ kid, Foreign kid .null := fun _ _ same => by cases same
  have number : ∀ kid, Foreign kid (.int 0) := fun _ _ same => by cases same
  -- An entry of another name is passed over, as is one that is no object.
  have foreign : ∀ {kid other : Text} {rest : Members}, kid ≠ other →
      Foreign (some kid) (.object (("kid", .str other) :: rest)) := by
    intro kid other rest different
    rw [foreign_named_iff]
    rintro _ ⟨⟩ named
    simp only [Members.get?, List.lookup_cons, beq_self_eq_true] at named
    cases named
    exact different rfl
  have other : Foreign (some "k") (secretNamed "j") := foreign (by decide)
  obtain ⟨same, decides, -⟩ := first_match_decides (some "k")
  obtain ⟨-, first, -⟩ := first_match_decides none
  obtain ⟨-, -, unfound⟩ := first_match_decides (some "l")
  refine ⟨?_, ?_, ?_, ?_⟩
  · obtain ⟨outcome, taken, found⟩ :=
      decides [("kid", .str "k")] (by simp [Selectable, Members.get?])
    rw [found [.null, secretNamed "j"] [secretNamed "k"] (by simp [nothing, other]) _ rfl]
    cases taken with
    | key parsed => cases parsed
    | unusable => rfl
    | crash crashed => cases crashed
  · refine same _ _ ?_ _ _ rfl rfl
    exact .left (nothing _) (.left other (.both _ (.right (number _) (.both _ .nil))))
  · obtain ⟨outcome, -, found⟩ := first _ (fun _ named => by cases named)
    rw [found [.null] _ (by simp [nothing]) _ rfl, found [] [] (by simp) _ rfl]
  · refine unfound crowded ?_ _ rfl
    simp only [crowded, List.forall_mem_cons]
    exact ⟨nothing _, foreign (by decide), foreign (by decide), foreign (by decide), by simp⟩

end TokenGate.KeySet

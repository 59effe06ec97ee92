import Mathlib.Data.List.Nodup
import TokenGate.Identity.Basic

/-! Which certificates name a connector. One that can be read has each extension once, so that
there is at most one pair of key identifiers in it. It names its holder by that pair, or an
identifier is lacking.
-/

set_option autoImplicit false

namespace TokenGate

open Der

namespace Extension

variable {extensions : List Extension} {name : Bytes} {e : Element}

def Carries (extensions : List Extension) (name : Bytes) (e : Element) : Prop :=
  ∃ x ∈ extensions, x.identifier = name ∧ single? x.value = some e

theorem hasDuplicate_eq_false_iff {names : List Bytes} :
    hasDuplicate names = false ↔ names.Nodup := by
  induction names with
  | nil => simp [hasDuplicate]
  | cons b rest ih => simp [hasDuplicate, ih]

theorem forM_read_iff : extensions.forM read = .ok () ↔ ∀ x ∈ extensions, x.read = .ok () := by
  induction extensions with
  | nil => simp [List.forM, pure, Except.pure]
  | cons x rest ih =>
    rw [List.forM, List.forall_mem_cons, ← ih]
    cases x.read <;> simp [bind, Except.bind]

theorem readAll_eq_ok_iff :
    readAll extensions = .ok () ↔
      (extensions.map (·.identifier)).Nodup ∧ ∀ x ∈ extensions, x.read = .ok () := by
  rw [← hasDuplicate_eq_false_iff, ← forM_read_iff, readAll]
  cases hasDuplicate (extensions.map (·.identifier)) <;> simp

theorem read_eq_ok_iff {x : Extension} {reader : Element → Except Kind Unit}
    (known : readers.lookup x.identifier = some reader) :
    x.read = .ok () ↔ ∃ e, single? x.value = some e ∧ reader e = .ok () := by
  rw [read, known]
  cases single? x.value <;> simp [Certificate.formed, bind, Except.bind]

theorem readable_element {reader : Element → Except Kind Unit}
    (readable : readAll extensions = .ok ())
    (known : readers.lookup name = some reader) {x : Extension} (member : x ∈ extensions)
    (named : x.identifier = name) :
    ∃ e, Carries extensions name e ∧ reader e = .ok () := by
  subst named
  obtain ⟨e, held, done⟩ := (read_eq_ok_iff known).mp ((readAll_eq_ok_iff.mp readable).2 x member)
  exact ⟨e, ⟨x, member, rfl, held⟩, done⟩

/-- No extension comes twice, so the first one with a name is the only one. -/
theorem find?_eq_some_iff (readable : readAll extensions = .ok ()) :
    find? extensions name = some e ↔ Carries extensions name e := by
  have distinct := (readAll_eq_ok_iff.mp readable).1
  rw [find?, Option.bind_eq_some_iff]
  constructor
  · rintro ⟨x, found, held⟩
    exact ⟨x, List.mem_of_find?_eq_some found, by simpa using List.find?_some found, held⟩
  · rintro ⟨x, member, rfl, held⟩
    have there : (extensions.find? fun y => y.identifier == x.identifier).isSome = true :=
      List.find?_isSome.mpr ⟨x, member, by simp⟩
    obtain ⟨y, found⟩ := Option.isSome_iff_exists.mp there
    -- Another extension under this name would be a duplicate.
    have same : y = x := List.inj_on_of_nodup_map distinct (List.mem_of_find?_eq_some found) member
      (by simpa using List.find?_some found)
    exact ⟨x, same ▸ found, held⟩

theorem find?_eq_none_of_absent (absent : ∀ x ∈ extensions, x.identifier ≠ name) :
    find? extensions name = none := by
  have none_found : (extensions.find? fun x => x.identifier == name) = none := by
    simpa [List.find?_eq_none] using absent
  rw [find?, none_found, Option.bind_none]

theorem lookup_subjectKey : readers.lookup subjectKeyIdentifier = some readSubjectKey := rfl

theorem lookup_authorityKey : readers.lookup authorityKeyIdentifier = some readAuthorityKey := rfl

theorem readSubjectKey_eq_ok_iff : readSubjectKey e = .ok () ↔ ∃ s, e.octets? = some s := by
  cases held : e.octets? <;> simp [readSubjectKey, Certificate.formed, held, Except.map]

theorem authorityKey_of_read (done : readAuthorityKey e = .ok ()) :
    ∃ k, authorityKey? e = some k := by
  cases held : authorityKey? e with
  | none => simp [readAuthorityKey, Certificate.formed, held, bind, Except.bind] at done
  | some k => exact ⟨k, rfl⟩

end Extension

namespace Certificate

open Extension

def Readable (c : Certificate) : Prop := readAll c.extensions = .ok ()

structure Names (c : Certificate) (subject authority : Bytes) : Prop where
  subject : ∃ e, Carries c.extensions subjectKeyIdentifier e ∧ e.octets? = some subject
  authority : ∃ e k, Carries c.extensions authorityKeyIdentifier e ∧ authorityKey? e = some k ∧
    k.identifier = some authority

inductive Lacks (c : Certificate) : Prop where
  | subject : (∀ x ∈ c.extensions, x.identifier ≠ subjectKeyIdentifier) → Lacks c
  | authority : (∀ x ∈ c.extensions, x.identifier ≠ authorityKeyIdentifier) → Lacks c
  /-- The authority's key is told of, but not by an identifier. -/
  | identifier {e : Element} {k : AuthorityKey} : Carries c.extensions authorityKeyIdentifier e →
      authorityKey? e = some k → k.identifier = none → Lacks c

variable {c : Certificate} {subject authority : Bytes}

theorem Names.keyIdentifiers_eq (names : c.Names subject authority) (readable : c.Readable) :
    c.keyIdentifiers = .ok (subject, authority) := by
  obtain ⟨e, held, octets⟩ := names.subject
  obtain ⟨f, k, told, key, identifier⟩ := names.authority
  have read : readAll c.extensions = .ok () := readable
  simp only [keyIdentifiers, read, Except.mapError, bind, Except.bind,
    (find?_eq_some_iff readable).mpr held, (find?_eq_some_iff readable).mpr told, octets, key,
    Option.bind_some, identifier]

theorem Lacks.keyIdentifiers_eq (lacks : c.Lacks) (readable : c.Readable) :
    ∃ fault, c.keyIdentifiers = .error fault ∧ fault.kind = .missingCertExtension := by
  have read : readAll c.extensions = .ok () := readable
  simp only [keyIdentifiers, read, Except.mapError, bind, Except.bind]
  cases lacks with
  | subject absent =>
    rw [find?_eq_none_of_absent absent]
    exact ⟨_, rfl, rfl⟩
  | authority absent =>
    rw [find?_eq_none_of_absent absent]
    cases find? c.extensions subjectKeyIdentifier with
    | none => exact ⟨_, rfl, rfl⟩
    | some e => exact ⟨_, rfl, rfl⟩
  | identifier told key unidentified =>
    rw [(find?_eq_some_iff readable).mpr told]
    cases find? c.extensions subjectKeyIdentifier with
    | none => exact ⟨_, rfl, rfl⟩
    | some e =>
      -- The pair is not complete, whatever is known of the subject.
      simp only [key, Option.bind_some, unidentified]
      cases e.octets? <;> exact ⟨_, rfl, rfl⟩

theorem named_or_lacks (readable : c.Readable) :
    (∃ subject authority, c.Names subject authority) ∨ c.Lacks := by
  by_cases subject : ∃ x ∈ c.extensions, x.identifier = subjectKeyIdentifier
  · by_cases authority : ∃ x ∈ c.extensions, x.identifier = authorityKeyIdentifier
    · obtain ⟨x, member, named⟩ := subject
      obtain ⟨e, held, done⟩ := readable_element readable lookup_subjectKey member named
      obtain ⟨s, octets⟩ := readSubjectKey_eq_ok_iff.mp done
      obtain ⟨y, member, named⟩ := authority
      obtain ⟨f, told, done⟩ := readable_element readable lookup_authorityKey member named
      obtain ⟨k, key⟩ := authorityKey_of_read done
      cases identifier : k.identifier with
      | none => exact .inr (.identifier told key identifier)
      | some a => exact .inl ⟨s, a, ⟨e, held, octets⟩, ⟨f, k, told, key, identifier⟩⟩
    · exact .inr (.authority fun x member named => authority ⟨x, member, named⟩)
  · exact .inr (.subject fun x member named => subject ⟨x, member, named⟩)

end Certificate

namespace Identity

variable {i : Identity} {subject authority : Bytes}

theorem connectorName_of_names (names : i.certificate.Names subject authority)
    (readable : i.certificate.Readable) :
    i.connectorName = .ok (String.ofList (name subject authority)) := by
  rw [connectorName, names.keyIdentifiers_eq readable]
  rfl

theorem connectorName_of_lacks (lacks : i.certificate.Lacks) (readable : i.certificate.Readable) :
    ∃ fault, i.connectorName = .error fault ∧ fault.kind = .missingCertExtension := by
  obtain ⟨fault, failed, kind⟩ := lacks.keyIdentifiers_eq readable
  exact ⟨fault, by rw [connectorName, failed]; rfl, kind⟩

end Identity

end TokenGate

import TokenGate.Certificate.Basic
import TokenGate.Stored.PrivateKey
import TokenGate.Stored.ShellKey

/-! Faults of reading stored keys. They tell of malformed octets or of keys that nobody reads, and
are never of a kind that the gate judges by itself.
-/

set_option autoImplicit false

namespace TokenGate

/-- A reading that ends, if not in a result, in a fault that is none of the gate's own. -/
def Raw {α : Type} (x : Except Kind α) : Prop := ∀ kind, x = .error kind → kind.isOwn = false

namespace Raw

variable {α β : Type}

theorem ok (a : α) : Raw (.ok a) := by
  intro kind failed
  cases failed

theorem error {kind : Kind} (foreign : kind.isOwn = false) : Raw (.error kind : Except Kind α) := by
  intro other failed
  cases failed
  exact foreign

theorem bind_of {x : Except Kind α} {next : α → Except Kind β} (first : Raw x)
    (rest : ∀ a, x = .ok a → Raw (next a)) : Raw (x >>= next) := by
  cases x with
  | error kind => exact error (first kind rfl)
  | ok a => exact rest a rfl

theorem bind {x : Except Kind α} {next : α → Except Kind β} (first : Raw x)
    (rest : ∀ a, Raw (next a)) : Raw (x >>= next) :=
  first.bind_of fun a _ => rest a

theorem map {x : Except Kind α} {f : α → β} (first : Raw x) : Raw (x.map f) := by
  cases x with
  | error kind => exact error (first kind rfl)
  | ok a => exact ok (f a)

end Raw

theorem mem_of_lookup {α β : Type} [BEq α] [LawfulBEq α] {entries : List (α × β)} {a : α} {b : β}
    (found : entries.lookup a = some b) : (a, b) ∈ entries := by
  obtain ⟨before, after, rfl, _⟩ := List.lookup_eq_some_iff.mp found
  simp

theorem PublicKey.orMalformed_raw {α : Type} (a : Option α) : Raw (orMalformed a) := by
  cases a with
  | none => exact .error rfl
  | some a => exact .ok a

theorem AlgorithmIdentifier.curveChoice_raw (a : AlgorithmIdentifier) : Raw a.curveChoice := by
  unfold curveChoice
  split
  · exact .ok _
  · exact .error rfl

theorem Curve.ofChoice_raw (choice : CurveChoice) : Raw (ofChoice choice) := by
  unfold ofChoice
  dsimp only
  split
  · exact .ok _
  · exact .error rfl

namespace PublicKey

theorem ofNamed_raw (bytes : Bytes) : Raw (ofNamed bytes) := by
  refine .bind (orMalformed_raw _) ?_
  rintro ⟨algorithm, key⟩
  dsimp only
  split
  · exact orMalformed_raw _
  · split
    · refine .bind algorithm.curveChoice_raw fun choice => ?_
      exact .bind (Curve.ofChoice_raw choice) fun c => orMalformed_raw _
    · split
      · exact orMalformed_raw _
      · split
        · split
          · exact .ok _
          · exact .error rfl
        · exact .error rfl

theorem ofDer_raw (bytes : Bytes) : Raw (ofDer bytes) := by
  unfold ofDer
  split
  · exact .ok _
  · exact .ok _
  · next refused _ => exact .error (ofNamed_raw bytes _ refused)

theorem rsaOfSection_raw (bytes : Bytes) : Raw (rsaOfSection bytes) := by
  unfold rsaOfSection
  split
  · exact .ok _
  · exact .ok _
  · exact .error rfl

theorem ofText_raw (cs : List Char) : Raw (ofText cs) := by
  refine .bind (orMalformed_raw _) fun s => ?_
  split
  · exact rsaOfSection_raw s.content
  · split
    · exact ofNamed_raw s.content
    · exact .error rfl

end PublicKey

namespace PrivateKey

open PublicKey (orMalformed_raw)

theorem curveOfDer_raw (outer : Option CurveChoice) (bytes : Bytes) :
    Raw (curveOfDer outer bytes) := by
  refine .bind (orMalformed_raw _) fun file => ?_
  refine .bind (orMalformed_raw _) fun choice => ?_
  refine .bind (Curve.ofChoice_raw choice) fun c => ?_
  refine .bind (orMalformed_raw _) fun own => ?_
  dsimp only
  split
  · exact .ok _
  · exact .error rfl

theorem ofWrapped_raw (bytes : Bytes) : Raw (ofWrapped bytes) := by
  refine .bind (orMalformed_raw _) ?_
  rintro ⟨algorithm, key⟩
  dsimp only
  split
  · exact orMalformed_raw _
  · split
    · exact .bind algorithm.curveChoice_raw fun choice => curveOfDer_raw (some choice) key
    · split
      · exact orMalformed_raw _
      · split
        · refine .bind (orMalformed_raw _) fun octets => ?_
          split
          · exact .ok _
          · exact .error rfl
        · exact .error rfl

theorem checked_raw (key : PrivateKey) : Raw key.checked := by
  unfold checked
  split
  · split
    · exact .ok _
    · exact .error rfl
  · exact .ok _

theorem ofSealed_raw (bytes : Bytes) : Raw (ofSealed bytes none) :=
  .bind (orMalformed_raw _) fun _ => .error rfl

theorem sectionContent_raw (s : Pem.Section) : Raw (Password.sectionContent s none) := by
  unfold Password.sectionContent
  split
  · exact .ok _
  · dsimp only
    split
    · exact .error rfl
    · split
      · exact .error rfl
      · exact .error rfl
    · next impossible => cases impossible

theorem readers_raw (label : String) {reader : Bytes → Except Kind PrivateKey}
    (found : readers.lookup label = some reader) (bytes : Bytes) : Raw (reader bytes) := by
  have member := mem_of_lookup found
  simp only [readers, List.mem_cons, Prod.mk.injEq, List.not_mem_nil, or_false] at member
  rcases member with ⟨_, rfl⟩ | ⟨_, rfl⟩ | ⟨_, rfl⟩ | ⟨_, rfl⟩
  · exact ofWrapped_raw bytes
  · exact orMalformed_raw _
  · exact curveOfDer_raw none bytes
  · exact orMalformed_raw _

theorem ofSection_raw (s : Pem.Section) : Raw (ofSection s none) := by
  refine .bind (sectionContent_raw s) ?_
  rintro ⟨content, encrypted⟩
  dsimp only
  split
  · exact .bind (ofSealed_raw content) fun key => key.checked_raw
  · next reader found =>
    refine .bind (readers_raw _ found content) fun key => ?_
    split
    · exact .error rfl
    · exact key.checked_raw

theorem ofText_raw (cs : List Char) : Raw (ofText cs none) :=
  .bind (orMalformed_raw _) fun s => ofSection_raw s

theorem ofDer_raw (bytes : Bytes) : Raw (ofDer bytes) := by
  unfold ofDer
  split
  iterate 4 exact checked_raw _
  · next refused _ _ _ =>
    split
    · exact .error rfl
    · exact .error (ofWrapped_raw bytes _ refused)

end PrivateKey

namespace ShellKey

def Raws {α : Type} (read : Reader α) : Prop := ∀ bytes, Raw (read.run bytes)

namespace Raws

variable {α β : Type}

theorem pure (a : α) : Raws (Pure.pure a : Reader α) := fun _ => .ok _

theorem throw {kind : Kind} (foreign : kind.isOwn = false) :
    Raws (MonadExcept.throw kind : Reader α) := fun _ => .error foreign

theorem bind {read : Reader α} {next : α → Reader β} (first : Raws read)
    (rest : ∀ a, Raws (next a)) : Raws (read >>= next) :=
  fun bytes => .bind (first bytes) fun result => rest result.1 result.2

theorem lift {x : Except Kind α} (raw : Raw x) : Raws (liftM x : Reader α) :=
  fun _ => .bind raw fun _ => .ok _

end Raws

theorem octets_raw (size : Nat) : Raws (octets size) := by
  intro bytes
  simp only [octets, StateT.run]
  split
  · exact .error rfl
  · exact .ok _

theorem unsigned_raw (size : Nat) : Raws (unsigned size) := by
  rw [unsigned, map_eq_pure_bind]
  exact .bind (octets_raw size) fun bytes => .pure _

theorem field_raw : Raws field := .bind (unsigned_raw 4) octets_raw

theorem number_raw : Raws number := by
  refine .bind field_raw fun bytes => ?_
  split
  · exact .throw rfl
  · exact .pure _

theorem whole_raw {α : Type} {read : Reader α} (raws : Raws read) (bytes : Bytes) :
    Raw (whole read bytes) := by
  refine .bind (raws bytes) ?_
  rintro ⟨a, rest⟩
  dsimp only
  split
  · exact .ok _
  · exact .error rfl

theorem each_raw {α : Type} {read : Reader α} (raws : Raws read) (bytes : Bytes) :
    Raw (each read bytes) := by
  unfold each
  -- The number of octets only bounds how often the reader is run.
  generalize bytes.length = fuel
  induction fuel generalizing bytes with
  | zero => cases bytes <;> first | exact .ok _ | exact .error rfl
  | succ fuel ih =>
    cases bytes with
    | nil => exact .ok _
    | cons b rest =>
      exact .bind (raws _) fun result => .bind (ih result.2) fun others => .ok _

theorem rsa_raw : Raws rsa :=
  .bind number_raw fun _ => .bind number_raw fun _ => .lift (PublicKey.orMalformed_raw _)

theorem dsa_raw : Raws dsa := by
  refine .bind number_raw fun p => ?_
  refine .bind number_raw fun q => ?_
  refine .bind number_raw fun g => ?_
  refine .bind number_raw fun _ => ?_
  split
  · exact .pure _
  · exact .throw rfl

theorem edwards_raw : Raws edwards := by
  refine .bind field_raw fun point => ?_
  split
  · exact .pure _
  · exact .throw rfl

theorem onCurve_raw (c : Curve) (name : String) : Raws (onCurve c name) := by
  refine .bind field_raw fun told => .bind field_raw fun point => ?_
  split
  · exact .throw rfl
  · split
    · exact .throw rfl
    · split
      · exact .throw rfl
      · exact .lift (PublicKey.orMalformed_raw _)

theorem kinds_raw {name : Bytes} {read : Reader PublicKey} (found : kinds.lookup name = some read) :
    Raws read := by
  have member := mem_of_lookup found
  simp only [kinds, List.mem_cons, Prod.mk.injEq, List.not_mem_nil, or_false] at member
  rcases member with ⟨_, rfl⟩ | ⟨_, rfl⟩ | ⟨_, rfl⟩ | ⟨_, rfl⟩ | ⟨_, rfl⟩ | ⟨_, rfl⟩
  · exact rsa_raw
  · exact dsa_raw
  · exact edwards_raw
  all_goals exact onCurve_raw _ _

theorem option_raw : Raws option := by
  refine .bind field_raw fun name => .bind field_raw fun value => ?_
  split
  · exact .pure _
  · exact .bind (.lift (whole_raw field_raw value)) fun _ => .pure _

theorem options_raw : Raws options := by
  refine .bind field_raw fun bytes => .bind (.lift (each_raw option_raw bytes)) fun names => ?_
  split
  · exact .pure _
  · exact .throw rfl

theorem signature_raw (kind : Bytes) : Raws (signature kind) := by
  refine .bind field_raw fun name => .bind field_raw fun _ => ?_
  split
  · exact .pure _
  · exact .throw rfl

theorem certified_raw {read : Reader PublicKey} (raws : Raws read) : Raws (certified read) := by
  refine .bind field_raw fun _ => .bind raws fun key => ?_
  refine .bind (octets_raw 8) fun _ => .bind (unsigned_raw 4) fun role => ?_
  refine .bind field_raw fun _ => .bind field_raw fun principals => ?_
  refine .bind (.lift (each_raw field_raw principals)) fun _ => .bind (octets_raw 16) fun _ => ?_
  refine .bind options_raw fun _ => .bind options_raw fun _ => ?_
  refine .bind field_raw fun _ => .bind field_raw fun authority => ?_
  refine .bind (.lift (field_raw authority)) fun kind => .bind field_raw fun proof => ?_
  refine .bind (.lift (whole_raw (signature_raw kind.1) proof)) fun _ => ?_
  split
  · exact .pure _
  · exact .throw rfl

theorem readerOf_raw (name : Bytes) : Raw (readerOf name) := by
  unfold readerOf
  dsimp only
  split
  · exact .error rfl
  · exact .ok _

theorem readerOf_raws {name : Bytes} {read : Reader PublicKey} (found : readerOf name = .ok read) :
    Raws read := by
  unfold readerOf at found
  dsimp only at found
  split at found
  · cases found
  · next known =>
    cases found
    split
    · exact certified_raw (kinds_raw known)
    · exact kinds_raw known

theorem ofLine_raw (line : Bytes) : Raw (ofLine line) := by
  unfold ofLine
  dsimp only
  split
  · exact .error rfl
  · refine .bind_of (readerOf_raw _) fun read found => ?_
    refine .bind (PublicKey.orMalformed_raw _) fun bytes => ?_
    refine whole_raw (.bind field_raw fun told => ?_) bytes
    split
    · exact readerOf_raws found
    · exact .throw rfl

end ShellKey

theorem Certificate.ofDer_raw (bytes : Bytes) : Raw (ofDer bytes) := by
  unfold ofDer
  split
  · exact .error rfl
  · exact .ok _
  · split
    · exact .ok _
    · exact .error rfl

end TokenGate

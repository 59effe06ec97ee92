import Mathlib.Data.List.Basic
import Mathlib.Data.List.Forall2
import TokenGate.Proofs.Identity.Naming

/-! The name of a connector tells both of its key identifiers. Each is spelled in pairs of digits
with colons between them, and the mark between the two stands nowhere else in a name.
-/

set_option autoImplicit false

namespace TokenGate.Identity

def nameDigits : List Char := "0123456789ABCDEF".toList

def nameMark : List Char := ":keyid:".toList

inductive SpellsOctet : List Char → UInt8 → Prop where
  | digits {high low : Nat} {c d : Char} {b : UInt8} : nameDigits[high]? = some c →
      nameDigits[low]? = some d → b.toNat = 16 * high + low → SpellsOctet [c, d] b

/-- Octets are spelled one by one, with colons between them. -/
def Spells (cs : List Char) (bytes : Bytes) : Prop :=
  ∃ pairs, List.Forall₂ SpellsOctet pairs bytes ∧ cs = [':'].intercalate pairs

def octet? (c d : Char) : Option UInt8 := do
  let high ← nameDigits.idxOf? c
  let low ← nameDigits.idxOf? d
  some (UInt8.ofNat (16 * high + low))

def octets? : List Char → Option Bytes
  | [] => some []
  | [c, d] => (octet? c d).map fun b => [b]
  | c :: d :: ':' :: e :: rest => do
    let b ← octet? c d
    let bytes ← octets? (e :: rest)
    some (b :: bytes)
  | _ => none

variable {subject authority bytes : Bytes} {c : Char} {b : UInt8}

theorem upper_digit (n : Fin 16) :
    nameDigits[n.val]? = some (colonHex.upper n) ∧
      nameDigits.idxOf? (colonHex.upper n) = some n.val := by
  decide +revert

theorem octet_halves (b : UInt8) :
    ∃ high low : Fin 16, b.toNat / 16 = high ∧ b.toNat % 16 = low ∧ b.toNat = 16 * high + low := by
  have bound := b.toNat_lt
  exact ⟨⟨b.toNat / 16, by omega⟩, ⟨b.toNat % 16, by omega⟩, rfl, rfl, by simp only; omega⟩

theorem hexPair_spells (b : UInt8) : SpellsOctet (Bytes.hexPair colonHex.upper b) b := by
  obtain ⟨high, low, upperHalf, lowerHalf, value⟩ := octet_halves b
  rw [Bytes.hexPair, upperHalf, lowerHalf]
  exact .digits (upper_digit high).1 (upper_digit low).1 value

theorem octet?_upper (b : UInt8) :
    octet? (colonHex.upper (b.toNat / 16)) (colonHex.upper (b.toNat % 16)) = some b := by
  obtain ⟨high, low, upperHalf, lowerHalf, value⟩ := octet_halves b
  rw [octet?, upperHalf, lowerHalf, (upper_digit high).2, (upper_digit low).2]
  simp only [Option.bind_eq_bind, Option.bind_some, ← value, UInt8.ofNat_toNat]

theorem colonHex_eq (bytes : Bytes) :
    colonHex bytes = [':'].intercalate (bytes.map (Bytes.hexPair colonHex.upper)) := by
  induction bytes with
  | nil => rfl
  | cons b rest ih =>
    cases rest with
    | nil => simp [colonHex]
    | cons next rest =>
      rw [colonHex.eq_def]
      simp only [ih, List.map_cons, List.intercalate_cons_cons, List.append_assoc,
        List.singleton_append]

theorem colonHex_spells (bytes : Bytes) : Spells (colonHex bytes) bytes := by
  refine ⟨bytes.map (Bytes.hexPair colonHex.upper), ?_, colonHex_eq bytes⟩
  rw [List.forall₂_map_left_iff, List.forall₂_same]
  exact fun b _ => hexPair_spells b

theorem octets?_colonHex (bytes : Bytes) : octets? (colonHex bytes) = some bytes := by
  induction bytes with
  | nil => rfl
  | cons b rest ih =>
    cases rest with
    | nil => simp [colonHex, Bytes.hexPair, octets?, octet?_upper]
    | cons next rest =>
      -- What follows a colon begins with a digit, so that the reader goes on there.
      obtain ⟨d, tail, more⟩ : ∃ d tail, colonHex (next :: rest) = d :: tail := by
        cases rest <;> exact ⟨_, _, rfl⟩
      rw [colonHex.eq_def]
      simp only [Bytes.hexPair, List.cons_append, List.nil_append, more, octets?, octet?_upper]
      rw [← more, ih]
      rfl

theorem mem_colonHex (member : c ∈ colonHex bytes) : c ∈ nameDigits ∨ c = ':' := by
  have digit : ∀ b, ∀ d ∈ Bytes.hexPair colonHex.upper b, d ∈ nameDigits := by
    intro b d member
    obtain ⟨first, second, -⟩ := hexPair_spells b
    rcases List.mem_pair.mp member with rfl | rfl
    · exact List.mem_of_getElem? first
    · exact List.mem_of_getElem? second
  induction bytes with
  | nil => cases member
  | cons b rest ih =>
    cases rest with
    | nil => exact .inl (digit b c member)
    | cons next rest =>
      rw [colonHex.eq_def] at member
      rcases List.mem_append.mp member with here | later
      · exact .inl (digit b c here)
      · rcases List.mem_cons.mp later with colon | later
        · exact .inr colon
        · exact ih later

theorem colonHex_injective : Function.Injective colonHex := by
  intro first second same
  have read := octets?_colonHex first
  rw [same, octets?_colonHex] at read
  exact (Option.some.inj read).symm

/-- The mark has a letter that is neither digit nor colon, so that a name is cut at it in one way.
-/
theorem name_eq_iff {left right : List Char} :
    name subject authority = left ++ nameMark ++ right ↔
      left = colonHex subject ∧ right = colonHex authority := by
  have lacks : ∀ bytes, 'k' ∉ colonHex bytes := by
    intro bytes member
    have impossible := mem_colonHex member
    revert impossible
    decide
  constructor
  · intro same
    -- Both sides are cut at the first letter of the mark.
    have marked : ∀ before after : List Char, before ++ nameMark ++ after =
        (before ++ [':']) ++ 'k' :: ("eyid:".toList ++ after) := by
      intro before after
      rw [List.append_assoc, List.append_assoc]
      rfl
    have cut : (colonHex subject ++ [':']) ++ 'k' :: ("eyid:".toList ++ colonHex authority) =
        (left ++ [':']) ++ 'k' :: ("eyid:".toList ++ right) := by
      rw [← marked, ← marked]
      exact same
    have before : 'k' ∉ colonHex subject ++ [':'] := by simp [lacks]
    have after : 'k' ∉ "eyid:".toList ++ colonHex authority := by simp [lacks]
    obtain ⟨lefts, -, rights⟩ := (List.append_cons_inj_of_notMem before after).mp cut
    exact ⟨(List.append_cancel_right lefts).symm, (List.append_cancel_left rights).symm⟩
  · rintro ⟨rfl, rfl⟩
    rfl

/-- The name of a connector tells its key identifiers: it is cut at its one mark into two texts, of
which each spells its identifier and is read back as it. -/
theorem name_tells_identifiers (subject authority : Bytes) :
    (∀ i : Identity, i.certificate.Readable → i.certificate.Names subject authority →
      i.connectorName = .ok (String.ofList (name subject authority))) ∧
    (∃ before after,
      (∀ left right, name subject authority = left ++ nameMark ++ right ↔
        left = before ∧ right = after) ∧
      Spells before subject ∧ Spells after authority ∧
      octets? before = some subject ∧ octets? after = some authority) ∧
    ∀ otherSubject otherAuthority,
      String.ofList (name subject authority) = String.ofList (name otherSubject otherAuthority) →
      subject = otherSubject ∧ authority = otherAuthority := by
  refine ⟨fun i readable names => connectorName_of_names names readable,
    ⟨colonHex subject, colonHex authority, fun _ _ => name_eq_iff, colonHex_spells _,
      colonHex_spells _, octets?_colonHex _, octets?_colonHex _⟩, ?_⟩
  intro otherSubject otherAuthority same
  -- The other name is cut at its mark as well.
  have cut : name subject authority =
      colonHex otherSubject ++ nameMark ++ colonHex otherAuthority := String.ofList_inj.mp same
  obtain ⟨subjects, authorities⟩ := name_eq_iff.mp cut
  exact ⟨(colonHex_injective subjects).symm, (colonHex_injective authorities).symm⟩

def briefIdentity : Identity :=
  ⟨⟨[⟨Extension.subjectKeyIdentifier, false, [0x04, 0x02, 0x0a, 0xbc]⟩,
    ⟨Extension.authorityKeyIdentifier, false, [0x30, 0x02, 0x80, 0x00]⟩]⟩,
    .rsa ⟨⟨33, 3⟩, 7, 3, 11, 1, 7, 2⟩⟩

theorem briefIdentity_tells :
    briefIdentity.connectorName = .ok "0A:BC:keyid:" ∧
      String.ofList (name [0x0a, 0xbc] []) ≠ String.ofList (name [0x0a] [0xbc]) := by
  obtain ⟨named, -, distinct⟩ := name_tells_identifiers [0x0a, 0xbc] []
  refine ⟨?_, fun same => by simpa using distinct _ _ same⟩
  refine named briefIdentity rfl ⟨?_, ?_⟩
  · exact ⟨_, ⟨_, List.mem_cons_self, rfl, rfl⟩, rfl⟩
  · exact ⟨_, _, ⟨_, List.mem_cons_of_mem _ List.mem_cons_self, rfl, rfl⟩, rfl, rfl⟩

end TokenGate.Identity

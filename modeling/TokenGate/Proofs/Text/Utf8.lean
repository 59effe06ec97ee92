import Mathlib.Tactic.SplitIfs
import TokenGate.Text.Utf8

/-! The strict reader of UTF-8 undoes the writer: it reads the octets that are written for
characters, and no others.
-/

set_option autoImplicit false

namespace TokenGate.Utf8

variable {c : Char} {n b k bits owed least greatest : Nat} {bytes rest : Bytes} {cs : List Char}

theorem charOf_toNat (c : Char) : charOf c.toNat = c := by
  have valid : c.toNat.isValidChar := c.valid
  rw [charOf, dif_pos valid]
  exact Char.ext (UInt32.toNat_inj.mp rfl)

theorem toNat_charOf (valid : n < 0xd800 ∨ (0xdfff < n ∧ n < 0x110000)) : (charOf n).toNat = n := by
  have valid : n.isValidChar := valid
  rw [charOf, dif_pos valid]
  rfl

/-! Lead octets -/

theorem lead_two : ∀ k < 32, 2 ≤ k →
    lead charOf false (0xc0 + k) = some (.within 0 0x80 0xbf k, none) := by
  decide

theorem lead_three : ∀ k < 16, lead charOf false (0xe0 + k) =
    some (.within 1 (if k = 0 then 0xa0 else 0x80) (if k = 13 then 0x9f else 0xbf) k, none) := by
  decide

theorem lead_four : ∀ k < 5, lead charOf false (0xf0 + k) =
    some (.within 2 (if k = 0 then 0x90 else 0x80) (if k = 4 then 0x8f else 0xbf) k, none) := by
  decide

/-! What is written is read -/

theorem toNat_octet (small : b < 256) : (UInt8.ofNat b).toNat = b := by
  rw [UInt8.toNat_ofNat', Nat.mod_eq_of_lt small]

theorem decodeFrom_lead {s : State} (small : b < 256) (led : lead charOf false b = some (s, none)) :
    decodeFrom charOf false .between (UInt8.ofNat b :: rest) = decodeFrom charOf false s rest := by
  simp only [decodeFrom, step, toNat_octet small, led]

theorem decodeFrom_more (small : b < 256) (low : least ≤ b) (high : b ≤ greatest) :
    decodeFrom charOf false (.within (owed + 1) least greatest bits) (UInt8.ofNat b :: rest) =
      decodeFrom charOf false (.within owed 0x80 0xbf (64 * bits + (b - 0x80))) rest := by
  simp only [decodeFrom, step, toNat_octet small, low, high, and_self, if_true]

theorem decodeFrom_last (small : b < 256) (low : least ≤ b) (high : b ≤ greatest) :
    decodeFrom charOf false (.within 0 least greatest bits) (UInt8.ofNat b :: rest) =
      (decodeFrom charOf false .between rest).map (charOf (64 * bits + (b - 0x80)) :: ·) := by
  simp only [decodeFrom, step, toNat_octet small, low, high, and_self, if_true]

theorem decodeFrom_encodeChar (c : Char) :
    decodeFrom charOf false .between (encodeChar c ++ rest) =
      (decodeFrom charOf false .between rest).map (c :: ·) := by
  have valid : c.toNat < 0xd800 ∨ (0xdfff < c.toNat ∧ c.toNat < 0x110000) := c.valid
  have whole := charOf_toNat c
  unfold encodeChar
  dsimp only
  generalize c.toNat = n at valid whole ⊢
  -- By how many octets there are; the number is put together again from six bits of each.
  split_ifs with one two three
  · have led : lead charOf false n = some (.between, some c) := by
      rw [lead, if_pos one, whole]
    simp only [List.singleton_append, decodeFrom, step, toNat_octet (show n < 256 by omega), led]
  · have number : 64 * (n / 64) + (0x80 + n % 64 - 0x80) = n := by omega
    have led := lead_two (n / 64) (by omega) (by omega)
    rw [List.cons_append, decodeFrom_lead (by omega) led, List.singleton_append,
      decodeFrom_last (by omega) (by omega) (by omega), number, whole]
  · have number : 64 * (64 * (n / 4096) + (0x80 + n / 64 % 64 - 0x80)) +
        (0x80 + n % 64 - 0x80) = n := by
      omega
    have led := lead_three (n / 4096) (by omega)
    rw [List.cons_append, decodeFrom_lead (by omega) led, List.cons_append,
      decodeFrom_more (by omega) (by split_ifs <;> omega) (by split_ifs <;> omega),
      List.singleton_append, decodeFrom_last (by omega) (by omega) (by omega), number, whole]
  · have number : 64 * (64 * (64 * (n / 262144) + (0x80 + n / 4096 % 64 - 0x80)) +
        (0x80 + n / 64 % 64 - 0x80)) + (0x80 + n % 64 - 0x80) = n := by
      omega
    have led := lead_four (n / 262144) (by omega)
    rw [List.cons_append, decodeFrom_lead (by omega) led, List.cons_append,
      decodeFrom_more (by omega) (by split_ifs <;> omega) (by split_ifs <;> omega),
      List.cons_append, decodeFrom_more (by omega) (by omega) (by omega),
      List.singleton_append, decodeFrom_last (by omega) (by omega) (by omega), number, whole]

theorem encode_cons (c : Char) (cs : List Char) : encode (c :: cs) = encodeChar c ++ encode cs :=
  List.flatMap_cons

theorem decode?_encode (cs : List Char) : decode? (encode cs) = some cs := by
  induction cs with
  | nil => rfl
  | cons c cs ih =>
    rw [decode?, encode_cons, decodeFrom_encodeChar]
    exact congrArg (Option.map (c :: ·)) ih

/-! Nothing else is read -/

theorem exists_octet (octet : UInt8) : ∃ b < 256, octet = UInt8.ofNat b :=
  ⟨octet.toNat, octet.toNat_lt, UInt8.ofNat_toNat.symm⟩

theorem more_sound
    (read : decodeFrom charOf false (.within (owed + 1) least greatest bits) bytes = some cs) :
    ∃ b rest, bytes = UInt8.ofNat b :: rest ∧ b < 256 ∧ least ≤ b ∧ b ≤ greatest ∧
      decodeFrom charOf false (.within owed 0x80 0xbf (64 * bits + (b - 0x80))) rest = some cs := by
  rcases bytes with _ | ⟨octet, rest⟩
  · cases read
  · obtain ⟨b, small, rfl⟩ := exists_octet octet
    by_cases inside : least ≤ b ∧ b ≤ greatest
    · rw [decodeFrom_more small inside.1 inside.2] at read
      exact ⟨b, rest, rfl, small, inside.1, inside.2, read⟩
    · simp [decodeFrom, step, toNat_octet small, inside] at read

theorem last_sound (read : decodeFrom charOf false (.within 0 least greatest bits)
    bytes = some cs) :
    ∃ b rest others, bytes = UInt8.ofNat b :: rest ∧ b < 256 ∧ least ≤ b ∧ b ≤ greatest ∧
      decodeFrom charOf false .between rest = some others ∧
      cs = charOf (64 * bits + (b - 0x80)) :: others := by
  rcases bytes with _ | ⟨octet, rest⟩
  · cases read
  · obtain ⟨b, small, rfl⟩ := exists_octet octet
    by_cases inside : least ≤ b ∧ b ≤ greatest
    · rw [decodeFrom_last small inside.1 inside.2] at read
      obtain ⟨others, later, same⟩ := Option.map_eq_some_iff.mp read
      exact ⟨b, rest, others, rfl, small, inside.1, inside.2, later, same.symm⟩
    · simp [decodeFrom, step, toNat_octet small, inside] at read

theorem lead_cases (b : Nat) :
    b < 0x80 ∨ lead charOf false b = none ∨ (∃ k, 2 ≤ k ∧ k < 32 ∧ b = 0xc0 + k) ∨
      (∃ k < 16, b = 0xe0 + k) ∨ ∃ k < 5, b = 0xf0 + k := by
  by_cases ascii : b < 0x80
  · exact .inl ascii
  by_cases two : 0xc2 ≤ b ∧ b < 0xe0
  · exact .inr (.inr (.inl ⟨b - 0xc0, by omega, by omega, by omega⟩))
  by_cases three : 0xe0 ≤ b ∧ b < 0xf0
  · exact .inr (.inr (.inr (.inl ⟨b - 0xe0, by omega, by omega⟩)))
  by_cases four : 0xf0 ≤ b ∧ b < 0xf5
  · exact .inr (.inr (.inr (.inr ⟨b - 0xf0, by omega, by omega⟩)))
  · refine .inr (.inl ?_)
    unfold lead
    split_ifs <;> first | rfl | omega

theorem encodeChar_one (ascii : n < 0x80) : encodeChar (charOf n) = [UInt8.ofNat n] := by
  rw [encodeChar, toNat_charOf (by omega), if_pos ascii]

theorem encodeChar_two {b1 : Nat} (least : 2 ≤ k) (most : k < 32) (low : 0x80 ≤ b1)
    (high : b1 ≤ 0xbf) :
    encodeChar (charOf (64 * k + (b1 - 0x80))) = [UInt8.ofNat (0xc0 + k), UInt8.ofNat b1] := by
  have first : (64 * k + (b1 - 0x80)) / 64 = k := by omega
  have second : 0x80 + (64 * k + (b1 - 0x80)) % 64 = b1 := by omega
  rw [encodeChar, toNat_charOf (by omega), if_neg (by omega), if_pos (by omega), first, second]

theorem encodeChar_three {b1 b2 : Nat} (most : k < 16)
    (low : (if k = 0 then 0xa0 else 0x80) ≤ b1) (high : b1 ≤ if k = 13 then 0x9f else 0xbf)
    (low2 : 0x80 ≤ b2) (high2 : b2 ≤ 0xbf) :
    encodeChar (charOf (64 * (64 * k + (b1 - 0x80)) + (b2 - 0x80))) =
      [UInt8.ofNat (0xe0 + k), UInt8.ofNat b1, UInt8.ofNat b2] := by
  -- Long forms and halves of pairs are left out by the range of the second octet.
  have range : 0x80 ≤ b1 ∧ b1 ≤ 0xbf ∧ (k = 0 → 0xa0 ≤ b1) ∧ (k = 13 → b1 ≤ 0x9f) := by
    split_ifs at low high <;> omega
  clear low high
  obtain ⟨low, high, long, half⟩ := range
  generalize number : 64 * (64 * k + (b1 - 0x80)) + (b2 - 0x80) = n
  have first : n / 4096 = k := by omega
  have second : 0x80 + n / 64 % 64 = b1 := by omega
  have third : 0x80 + n % 64 = b2 := by omega
  rw [encodeChar, toNat_charOf (by omega), if_neg (by omega), if_neg (by omega),
    if_pos (by omega), first, second, third]

theorem encodeChar_four {b1 b2 b3 : Nat} (most : k < 5)
    (low : (if k = 0 then 0x90 else 0x80) ≤ b1) (high : b1 ≤ if k = 4 then 0x8f else 0xbf)
    (low2 : 0x80 ≤ b2) (high2 : b2 ≤ 0xbf) (low3 : 0x80 ≤ b3) (high3 : b3 ≤ 0xbf) :
    encodeChar (charOf (64 * (64 * (64 * k + (b1 - 0x80)) + (b2 - 0x80)) + (b3 - 0x80))) =
      [UInt8.ofNat (0xf0 + k), UInt8.ofNat b1, UInt8.ofNat b2, UInt8.ofNat b3] := by
  have range : 0x80 ≤ b1 ∧ b1 ≤ 0xbf ∧ (k = 0 → 0x90 ≤ b1) ∧ (k = 4 → b1 ≤ 0x8f) := by
    split_ifs at low high <;> omega
  clear low high
  obtain ⟨low, high, long, beyond⟩ := range
  generalize number : 64 * (64 * (64 * k + (b1 - 0x80)) + (b2 - 0x80)) + (b3 - 0x80) = n
  have first : n / 262144 = k := by omega
  have second : 0x80 + n / 4096 % 64 = b1 := by omega
  have third : 0x80 + n / 64 % 64 = b2 := by omega
  have fourth : 0x80 + n % 64 = b3 := by omega
  rw [encodeChar, toNat_charOf (by omega), if_neg (by omega), if_neg (by omega),
    if_neg (by omega), first, second, third, fourth]

theorem decodeFrom_sound (read : decodeFrom charOf false .between bytes = some cs) :
    bytes = encode cs := by
  -- A character has up to four octets, so the induction is on how many octets there are.
  induction size : bytes.length using Nat.strongRecOn generalizing bytes cs with
  | ind n ih =>
    subst size
    have later : ∀ {rest others}, rest.length < bytes.length →
        decodeFrom charOf false .between rest = some others → rest = encode others :=
      fun shorter read => ih _ shorter read rfl
    clear ih
    rcases bytes with _ | ⟨octet, rest⟩
    · cases read
      rfl
    obtain ⟨b, small, rfl⟩ := exists_octet octet
    obtain ascii | none | ⟨k, least, most, rfl⟩ | ⟨k, most, rfl⟩ | ⟨k, most, rfl⟩ := lead_cases b
    · have led : lead charOf false b = some (.between, some (charOf b)) := by
        rw [lead, if_pos ascii]
      simp only [decodeFrom, step, toNat_octet small, led] at read
      obtain ⟨others, after, rfl⟩ := Option.map_eq_some_iff.mp read
      rw [later (by simp) after, encode_cons, encodeChar_one ascii]
      rfl
    · simp [decodeFrom, step, toNat_octet small, none] at read
    · rw [decodeFrom_lead small (lead_two k most least)] at read
      obtain ⟨b1, rest, others, rfl, -, low, high, after, rfl⟩ := last_sound read
      rw [later (by simp only [List.length_cons]; omega) after, encode_cons,
        encodeChar_two least most low high]
      rfl
    · rw [decodeFrom_lead small (lead_three k most)] at read
      obtain ⟨b1, rest, rfl, -, low, high, read⟩ := more_sound read
      obtain ⟨b2, rest, others, rfl, -, low2, high2, after, rfl⟩ := last_sound read
      rw [later (by simp only [List.length_cons]; omega) after, encode_cons,
        encodeChar_three most low high low2 high2]
      rfl
    · rw [decodeFrom_lead small (lead_four k most)] at read
      obtain ⟨b1, rest, rfl, -, low, high, read⟩ := more_sound read
      obtain ⟨b2, rest, rfl, -, low2, high2, read⟩ := more_sound read
      obtain ⟨b3, rest, others, rfl, -, low3, high3, after, rfl⟩ := last_sound read
      rw [later (by simp only [List.length_cons]; omega) after, encode_cons,
        encodeChar_four most low high low2 high2 low3 high3]
      rfl

theorem decode?_eq_some_iff : decode? bytes = some cs ↔ bytes = encode cs := by
  refine ⟨decodeFrom_sound, ?_⟩
  rintro rfl
  exact decode?_encode cs

end TokenGate.Utf8

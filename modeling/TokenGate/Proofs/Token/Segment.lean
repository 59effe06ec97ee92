import TokenGate.Token.Compact

/-! Segments of tokens are read back as the octets that were written, and a token falls apart at
its dots into the segments that it was put together of.
-/

set_option autoImplicit false

namespace TokenGate

namespace Base64

theorem value?_char : ∀ n < 64, urlSafe.value? (urlSafe.char n) = some n := by decide

theorem sextets_lt (bytes : Bytes) : ∀ n ∈ sextets bytes, n < 64 := by
  fun_induction sextets bytes with
  | case1 => simp
  | case2 a =>
    have := a.toNat_lt
    simp only [List.forall_mem_cons]
    exact ⟨by omega, by omega, List.forall_mem_nil _⟩
  | case3 a b =>
    have := a.toNat_lt
    have := b.toNat_lt
    simp only [List.forall_mem_cons]
    exact ⟨by omega, by omega, by omega, List.forall_mem_nil _⟩
  | case4 a b c rest ih =>
    have := a.toNat_lt
    have := b.toNat_lt
    have := c.toNat_lt
    simp only [List.forall_mem_cons]
    exact ⟨by omega, by omega, by omega, by omega, ih⟩

theorem ofNat_eq {b : UInt8} {n : Nat} (same : n = b.toNat) : UInt8.ofNat n = b := by
  rw [same, UInt8.ofNat_toNat]

/-- Three octets are put together again from four sextets, and so is a shorter end. -/
theorem octets_sextets (bytes : Bytes) : octets (sextets bytes) = some bytes := by
  -- By three octets; one or two at the end leave bits behind, which are zero.
  fun_induction sextets bytes with
  | case1 => rfl
  | case2 a =>
    have first : UInt8.ofNat (a.toNat / 4 * 4 + a.toNat % 4 * 16 / 16) = a := ofNat_eq (by omega)
    have clear : a.toNat % 4 * 16 % 16 = 0 := Nat.mul_mod_left _ _
    rw [octets, if_pos clear, first]
  | case3 a b =>
    have := b.toNat_lt
    have first : UInt8.ofNat (a.toNat / 4 * 4 + (a.toNat % 4 * 16 + b.toNat / 16) / 16) = a :=
      ofNat_eq (by omega)
    have second : UInt8.ofNat ((a.toNat % 4 * 16 + b.toNat / 16) % 16 * 16 +
        b.toNat % 16 * 4 / 4) = b := ofNat_eq (by omega)
    have clear : b.toNat % 16 * 4 % 4 = 0 := Nat.mul_mod_left _ _
    rw [octets, if_pos clear, first, second]
  | case4 a b c rest ih =>
    have := b.toNat_lt
    have := c.toNat_lt
    have first : UInt8.ofNat (a.toNat / 4 * 4 + (a.toNat % 4 * 16 + b.toNat / 16) / 16) = a :=
      ofNat_eq (by omega)
    have second : UInt8.ofNat ((a.toNat % 4 * 16 + b.toNat / 16) % 16 * 16 +
        (b.toNat % 16 * 4 + c.toNat / 64) / 4) = b := ofNat_eq (by omega)
    have third : UInt8.ofNat ((b.toNat % 16 * 4 + c.toNat / 64) % 4 * 64 + c.toNat % 64) = c :=
      ofNat_eq (by omega)
    rw [octets, ih, first, second, third]
    rfl

theorem mapM_value?_map_char {ns : List Nat} (small : ∀ n ∈ ns, n < 64) :
    (ns.map urlSafe.char).mapM urlSafe.value? = some ns := by
  induction ns with
  | nil => rfl
  | cons n ns ih =>
    obtain ⟨least, small⟩ := List.forall_mem_cons.mp small
    rw [List.map_cons, List.mapM_cons, value?_char n least, ih small]
    rfl

theorem decodeBare?_encodeBare (bytes : Bytes) :
    decodeBare? urlSafe (encodeBare urlSafe bytes) = some bytes := by
  rw [decodeBare?, encodeBare, mapM_value?_map_char (sextets_lt bytes)]
  exact octets_sextets bytes

end Base64

namespace Compact

def UrlSafe (c : Char) : Prop := c.isAlphanum = true ∨ c = '-' ∨ c = '_'

theorem urlSafe_char : ∀ n < 64, UrlSafe (Base64.urlSafe.char n) := by
  unfold UrlSafe
  decide

theorem urlSafe_of_mem_segment {bytes : Bytes} {c : Char} (member : c ∈ segment bytes) :
    UrlSafe c := by
  obtain ⟨n, there, rfl⟩ := List.mem_map.mp member
  exact urlSafe_char n (Base64.sextets_lt bytes n there)

theorem not_mem_segment {c : Char} (foreign : ¬ UrlSafe c) (bytes : Bytes) : c ∉ segment bytes :=
  fun member => foreign (urlSafe_of_mem_segment member)

theorem dot_not_mem_segment (bytes : Bytes) : '.' ∉ segment bytes :=
  not_mem_segment (by simp [UrlSafe]) bytes

theorem segment?_segment (bytes : Bytes) : segment? (segment bytes) = some bytes := by
  have unpadded : (segment bytes).getLast? ≠ some '=' := fun last =>
    not_mem_segment (by simp [UrlSafe]) bytes (List.mem_of_getLast? last)
  rw [segment?, Base64.decode?, if_neg unpadded]
  exact Base64.decodeBare?_encodeBare bytes

theorem splitOn_token (header payload : List Char) (signature : Bytes) :
    (withSignature (signingInput header payload) signature).splitOn '.' =
      [segment (Utf8.encode header), segment (Utf8.encode payload), segment signature] := by
  have joined : withSignature (signingInput header payload) signature =
      ['.'].intercalate
        [segment (Utf8.encode header), segment (Utf8.encode payload), segment signature] := by
    simp [withSignature, signingInput, List.intercalate]
  rw [joined]
  refine List.splitOn_intercalate _ ?_ (List.cons_ne_nil _ _)
  simp [dot_not_mem_segment]

end Compact

end TokenGate

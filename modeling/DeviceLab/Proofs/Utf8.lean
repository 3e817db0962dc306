import DeviceLab.Text.Utf8
import Mathlib.Data.List.Basic
import Mathlib.Order.Defs.LinearOrder

/-! The order of texts is that of their bytes.

A character that comes before another one has an encoding that comes before that
of the other, whatever follows either. So texts compare by their characters as
their UTF-8 bytes do (`encode_lt_iff`). -/
namespace DeviceLab.Utf8

theorem byte_lt_iff {m n : Nat} (hm : m < 256) (hn : n < 256) :
    UInt8.ofNat m < UInt8.ofNat n ↔ m < n := by
  rw [UInt8.lt_iff_toNat_lt, UInt8.toNat_ofNat_of_lt' hm, UInt8.toNat_ofNat_of_lt' hn]

theorem byte_inj {m n : Nat} (hm : m < 256) (hn : n < 256) :
    UInt8.ofNat m = UInt8.ofNat n ↔ m = n := by
  rw [← UInt8.toNat_inj, UInt8.toNat_ofNat_of_lt' hm, UInt8.toNat_ofNat_of_lt' hn]

/-- Numbers compare by their digits, the leading one first. -/
theorem digits_lt {a b c d a' b' c' d' : Nat} (hb : b < 64) (hc : c < 64) (hd : d < 64)
    (hb' : b' < 64) (hc' : c' < 64) (hd' : d' < 64)
    (h : ((a * 64 + b) * 64 + c) * 64 + d < ((a' * 64 + b') * 64 + c') * 64 + d') :
    a < a' ∨ a = a' ∧ (b < b' ∨ b = b' ∧ (c < c' ∨ c = c' ∧ d < d')) := by
  omega

/-- A smaller character begins with smaller bytes, before its encoding ends. -/
theorem encodeChar_lt {c d : Char} (h : c < d) (xs ys : List UInt8) :
    String.utf8EncodeChar c ++ xs < String.utf8EncodeChar d ++ ys := by
  have hlt : c.val.toNat < d.val.toNat := h
  have hd : d.val.toNat < 0x110000 := by
    rcases d.valid with h | h
    · exact Nat.lt_trans h (by decide)
    · exact h.2
  unfold String.utf8EncodeChar
  generalize c.val.toNat = m at hlt
  generalize d.val.toNat = n at hlt hd
  dsimp only
  by_cases hm : m ≤ 65535
  · split_ifs <;>
      simp (disch := omega) only [List.cons_append, List.nil_append, List.cons_lt_cons_iff,
        byte_lt_iff, byte_inj] <;>
      omega
  · -- Both take four bytes, which hold the digits of the two numbers.
    have digits : ∀ k < 0x110000,
        k = ((k / 262144 % 8 * 64 + k / 4096 % 64) * 64 + k / 64 % 64) * 64 + k % 64 := by
      intro k hk
      omega
    have hlex := digits_lt (Nat.mod_lt _ (by decide)) (Nat.mod_lt _ (by decide))
      (Nat.mod_lt _ (by decide)) (Nat.mod_lt _ (by decide)) (Nat.mod_lt _ (by decide))
      (Nat.mod_lt _ (by decide))
      (digits m (Nat.lt_trans hlt hd) ▸ digits n hd ▸ hlt : _ < _)
    rw [if_neg (by omega), if_neg (by omega), if_neg hm, if_neg (by omega), if_neg (by omega),
      if_neg (by omega)]
    simp (disch := omega) only [List.cons_append, List.nil_append, List.cons_lt_cons_iff,
      byte_lt_iff, byte_inj, Nat.add_lt_add_iff_right, Nat.add_right_cancel_iff]
    rcases hlex with h | ⟨e, h | ⟨e', h | ⟨e'', h⟩⟩⟩
    · exact .inl h
    · exact .inr ⟨e, .inl h⟩
    · exact .inr ⟨e, .inr ⟨e', .inl h⟩⟩
    · exact .inr ⟨e, .inr ⟨e', .inr ⟨e'', .inl h⟩⟩⟩

/-- The bytes of a text, one after another. -/
theorem encode_data (s : String) :
    (encode s).data.toList = s.toList.flatMap String.utf8EncodeChar := by
  rw [encode, String.toUTF8, ← String.utf8Encode_toList, List.utf8Encode]
  simp

theorem flatMap_lt {cs ds : List Char} (h : cs < ds) :
    cs.flatMap String.utf8EncodeChar < ds.flatMap String.utf8EncodeChar := by
  induction h with
  | nil =>
    rename_i d ds
    obtain ⟨b, bs, hb⟩ := List.exists_cons_of_ne_nil (String.utf8EncodeChar_ne_nil (c := d))
    simp [hb]
  | rel h => exact encodeChar_lt h _ _
  | cons h ih => exact List.append_left_lt ih

/-- **Texts compare as their bytes do.** -/
theorem encode_lt_iff (s t : String) :
    (encode s).data.toList < (encode t).data.toList ↔ s < t := by
  have hmono : ∀ {s t : String}, s < t →
      (encode s).data.toList < (encode t).data.toList := fun h => by
    rw [encode_data, encode_data]
    exact flatMap_lt (String.lt_iff.mp h)
  refine ⟨fun h => ?_, hmono⟩
  by_contra hst
  by_cases hts : t < s
  · exact List.lt_asymm h (hmono hts)
  · rw [String.le_antisymm (String.not_lt.mp hts) (String.not_lt.mp hst)] at h
    exact List.lt_irrefl _ h

/-! ### Text of one-byte characters -/

theorem decode?_eq_some_iff {bytes : ByteArray} {s : String} :
    decode? bytes = some s ↔ encode s = bytes := by
  unfold decode? encode String.fromUTF8? String.fromUTF8
  split
  · next h =>
    rw [Option.some.injEq]
    constructor <;>
    · rintro rfl
      rfl
  · next h =>
    refine iff_of_false (fun heq => nomatch heq) ?_
    rintro rfl
    exact h s.isValidUTF8

/-- There are 128 characters of one byte. -/
theorem of_ascii {p : Char → Prop} (h : ∀ n < 128, p (Char.ofNat n)) {c : Char}
    (hc : c.toNat < 128) : p c := by
  rw [← Char.ofNat_toNat c]
  exact h _ hc

theorem encodeChar_of_ascii {c : Char} (h : c.toNat < 128) :
    String.utf8EncodeChar c = [UInt8.ofNat c.toNat] :=
  if_pos (Nat.le_of_lt_succ h)

/-- The bytes of other characters are not those of one-byte characters. -/
theorem le_of_mem_encodeChar {c : Char} (h : 128 ≤ c.toNat) {b : UInt8}
    (hb : b ∈ String.utf8EncodeChar c) : 128 ≤ b.toNat := by
  have hlarge : ¬ c.val.toNat ≤ 127 := Nat.not_le.mpr h
  unfold String.utf8EncodeChar at hb
  dsimp only at hb
  rw [if_neg hlarge] at hb
  -- Each byte is a payload below 64 with a mark of 128 or more on top.
  split_ifs at hb <;>
  · simp only [List.mem_cons, List.not_mem_nil, or_false] at hb
    rcases hb with rfl | rfl | rfl | rfl <;>
    · rw [UInt8.toNat_ofNat']
      omega

theorem flatMap_encodeChar_of_ascii {cs : List Char} (h : ∀ c ∈ cs, c.toNat < 128) :
    cs.flatMap String.utf8EncodeChar = cs.map fun c => UInt8.ofNat c.toNat := by
  induction cs with
  | nil => rfl
  | cons c cs ih =>
    obtain ⟨hc, hcs⟩ := List.forall_mem_cons.mp h
    rw [List.flatMap_cons, encodeChar_of_ascii hc, ih hcs]
    rfl

end DeviceLab.Utf8

import DeviceLab.Device.Tpm
import DeviceLab.Proofs.Poll
import DeviceLab.Proofs.Text
import DeviceLab.Proofs.Word

/-! How the owner password is read.

A report of the trusted platform module has the password as hexadecimal digits behind a
label. What counts is the word there, of characters of any script; it is decoded by bytes,
two by two, wherever its characters end. So a password is read just if the word is made of
pairs of digits, and it is the one they spell; any other word is refused
(`password_decodes`). -/
namespace DeviceLab.Device.Tpm

/-! ### Digits of base sixteen -/

/-- The digits, of either letter case. -/
def hexDigits : List Char := "0123456789abcdefABCDEF".toList

/-- The bytes in digits, two each. -/
def hexOf (bytes : List UInt8) : List Char :=
  bytes.flatMap fun b => [Nat.digitChar (b.toNat / 16), Nat.digitChar (b.toNat % 16)]

theorem ascii_of_hexDigits : ∀ c ∈ hexDigits, c.toNat < 128 := by
  have hall : hexDigits.all (·.toNat < 128) = true := by decide
  simpa using hall

theorem hexDigit?_of_mem : ∀ c ∈ hexDigits, (hexDigit? c).isSome = true :=
  List.all_eq_true.mp (by decide)

theorem hexDigit?_large {c : Char} (h : 128 ≤ c.toNat) : hexDigit? c = none := by
  have hle {d : Char} (hd : d.toNat < 128) : ¬ c ≤ d := fun hcd =>
    absurd (show c.toNat ≤ d.toNat from hcd) (by omega)
  simp [hexDigit?, hle]

theorem mem_of_hexDigit? {c : Char} {n : Nat} (h : hexDigit? c = some n) : c ∈ hexDigits := by
  have hsome : (hexDigit? c).isSome = true := by rw [h]; rfl
  have hall : ∀ n < 128, (hexDigit? (Char.ofNat n)).isSome = true → Char.ofNat n ∈ hexDigits := by
    decide +kernel
  refine Utf8.of_ascii (p := fun c => (hexDigit? c).isSome = true → c ∈ hexDigits) hall ?_ hsome
  by_contra hlarge
  rw [hexDigit?_large (by omega)] at hsome
  cases hsome

/-- A digit counts the same in either letter case. -/
theorem hexDigit?_of_toLower {c : Char} {n : Nat} (hn : n < 16)
    (h : c.toLower = Nat.digitChar n) : hexDigit? c = some n := by
  have hdigit : ∀ n < 16, (Nat.digitChar n).toNat < 128 := by decide
  have hall : ∀ k < 128, ∀ n < 16, (Char.ofNat k).toLower = Nat.digitChar n →
      hexDigit? (Char.ofNat k) = some n := by decide +kernel
  by_cases hc : c.toNat < 128
  · exact Utf8.of_ascii
      (p := fun c => ∀ n < 16, c.toLower = Nat.digitChar n → hexDigit? c = some n) hall hc n hn h
  · have hsame : c.toLower = c := dif_neg fun hupper =>
      hc (Nat.lt_of_le_of_lt (UInt32.le_iff_toNat_le.mp hupper.2) (by decide))
    rw [← hsame, h] at hc
    exact absurd (hdigit n hn) hc

theorem mem_of_map_toLower {word : List Char} {bytes : List UInt8}
    (h : word.map Char.toLower = hexOf bytes) : ∀ c ∈ word, c ∈ hexDigits := by
  intro c hc
  have hlower : c.toLower ∈ hexOf bytes := h ▸ List.mem_map_of_mem hc
  obtain ⟨b, -, hb⟩ := List.mem_flatMap.mp hlower
  have hsize : b.toNat < 256 := b.toNat_lt_size
  rcases List.mem_pair.mp hb with hhi | hlo
  · exact mem_of_hexDigit? (hexDigit?_of_toLower (by omega) hhi)
  · exact mem_of_hexDigit? (hexDigit?_of_toLower (by omega) hlo)

theorem hexFrom?_mem {cs : List Char} {acc n : Nat} (h : hexFrom? acc cs = some n) :
    ∀ c ∈ cs, c ∈ hexDigits := by
  induction cs generalizing acc with
  | nil => simp
  | cons c cs ih =>
    obtain ⟨d, hd, hrest⟩ := Option.bind_eq_some_iff.mp h
    exact List.forall_mem_cons.mpr ⟨mem_of_hexDigit? hd, ih hrest⟩

/-- What is read as a number has digits only, but for its sign. -/
theorem hex?_mem {cs : List Char} {n : Nat} (h : hex? cs = some n) :
    ∀ c ∈ cs, c ∈ hexDigits ∨ c = '+' := by
  unfold hex? at h
  split at h
  · cases h
  · cases h
  · exact List.forall_mem_cons.mpr ⟨.inr rfl, fun c hc => .inl (hexFrom?_mem h c hc)⟩
  · exact fun c hc => .inl (hexFrom?_mem h c hc)

theorem hex?_pair {hi lo : Char} {h l : Nat} (hhi : hexDigit? hi = some h)
    (hlo : hexDigit? lo = some l) : hex? [hi, lo] = some (16 * h + l) := by
  have hsign : hi ≠ '+' := by
    rintro rfl
    cases hhi
  unfold hex?
  split
  · next heq => cases heq
  · next heq => cases heq
  · next heq => exact absurd (List.cons.inj heq).1 hsign
  · simp [hexFrom?, hhi, hlo]

/-! ### Pairs of bytes -/

/-- The byte of a one-byte character. -/
def byteOf (c : Char) : UInt8 := UInt8.ofNat c.toNat

/-- What is a digit, or a sign in front of one. -/
def isMark (c : Char) : Prop := c ∈ hexDigits ∨ c = '+'

theorem ascii_of_mark {c : Char} (h : isMark c) : c.toNat < 128 := by
  rcases h with h | rfl
  · exact ascii_of_hexDigits c h
  · decide

theorem pairChar?_digits {hi lo : Char} {h l : Nat} (hhi : hexDigit? hi = some h)
    (hlo : hexDigit? lo = some l) :
    pairChar? (byteOf hi) (byteOf lo) = some (Char.ofNat (16 * h + l)) := by
  have hascii : ∀ c ∈ [hi, lo], c.toNat < 128 := by
    simp [ascii_of_hexDigits _ (mem_of_hexDigit? hhi), ascii_of_hexDigits _ (mem_of_hexDigit? hlo)]
  have hbytes : Utf8.encode (String.ofList [hi, lo]) = ⟨#[byteOf hi, byteOf lo]⟩ := by
    refine ByteArray.ext (Array.toList_inj.mp ?_)
    rw [Utf8.encode_data, String.toList_ofList, Utf8.flatMap_encodeChar_of_ascii hascii]
    rfl
  rw [pairChar?, Utf8.decode?_eq_some_iff.mpr hbytes, Option.bind_some, String.toList_ofList,
    hex?_pair hhi hlo, Option.map_some]

/-- Two bytes that spell a character are those of digits, or of a sign and a digit. -/
theorem marks_of_pairChar? {a b : UInt8} {c : Char} (h : pairChar? a b = some c) :
    ∀ x ∈ [a, b], ∃ d, isMark d ∧ x = byteOf d := by
  obtain ⟨s, hs, hchar⟩ := Option.bind_eq_some_iff.mp h
  obtain ⟨n, hn, -⟩ := Option.map_eq_some_iff.mp hchar
  have hmarks : ∀ d ∈ s.toList, isMark d := hex?_mem hn
  have hbytes : [a, b] = s.toList.map byteOf := by
    have hdata := congrArg (·.data.toList) (Utf8.decode?_eq_some_iff.mp hs)
    simp only [Utf8.encode_data] at hdata
    rw [Utf8.flatMap_encodeChar_of_ascii fun d hd => ascii_of_mark (hmarks d hd)] at hdata
    exact hdata.symm
  intro x hx
  rw [hbytes] at hx
  obtain ⟨d, hd, rfl⟩ := List.mem_map.mp hx
  exact ⟨d, hmarks d hd, rfl⟩

/-! ### Decoding -/

theorem decodeHex_marks {bytes : List UInt8} {cs : List Char} (h : decodeHex bytes = some cs) :
    ∀ x ∈ bytes, ∃ d, isMark d ∧ x = byteOf d := by
  induction bytes using decodeHex.induct generalizing cs with
  | case1 => simp
  | case2 a b rest ih =>
    obtain ⟨c, hc, hmore⟩ := Option.bind_eq_some_iff.mp h
    obtain ⟨cs, hcs, -⟩ := Option.bind_eq_some_iff.mp hmore
    intro x hx
    rcases List.mem_append.mp (show x ∈ [a, b] ++ rest from hx) with hx | hx
    · exact marks_of_pairChar? hc x hx
    · exact ih hcs x hx
  | case3 a => cases h

/-- Of characters whose bytes are decoded each is a digit, or a sign. -/
theorem marks_of_decodeHex {word cs : List Char}
    (h : decodeHex (word.flatMap String.utf8EncodeChar) = some cs) : ∀ c ∈ word, isMark c := by
  intro c hc
  have hmark (x : UInt8) (hx : x ∈ String.utf8EncodeChar c) : ∃ d, isMark d ∧ x = byteOf d :=
    decodeHex_marks h x (List.mem_flatMap.mpr ⟨c, hc, hx⟩)
  have hbyte {d : Char} (hd : isMark d) : (byteOf d).toNat = d.toNat := by
    have := ascii_of_mark hd
    rw [byteOf, UInt8.toNat_ofNat']
    omega
  by_cases hascii : c.toNat < 128
  · obtain ⟨d, hd, hx⟩ := hmark (byteOf c) (by simp [Utf8.encodeChar_of_ascii hascii, byteOf])
    have hlt := ascii_of_mark hd
    rw [byteOf, byteOf, Utf8.byte_inj (by omega) (by omega)] at hx
    rwa [Char.toNat_inj.mp hx]
  · obtain ⟨x, xs, hxs⟩ := List.exists_cons_of_ne_nil (String.utf8EncodeChar_ne_nil (c := c))
    have hx : x ∈ String.utf8EncodeChar c := by simp [hxs]
    obtain ⟨d, hd, rfl⟩ := hmark x hx
    have hlarge := Utf8.le_of_mem_encodeChar (by omega) hx
    have hlt := ascii_of_mark hd
    rw [hbyte hd] at hlarge
    omega

/-- Digits in pairs are decoded. -/
theorem decodeHex_digits {word : List Char} (h : ∀ c ∈ word, c ∈ hexDigits)
    (heven : word.length % 2 = 0) : ∃ cs, decodeHex (word.map byteOf) = some cs := by
  match word with
  | [] => exact ⟨[], rfl⟩
  | [c] => cases heven
  | hi :: lo :: word =>
    obtain ⟨hhi, hrest⟩ := List.forall_mem_cons.mp h
    obtain ⟨hlo, hword⟩ := List.forall_mem_cons.mp hrest
    obtain ⟨m, hm⟩ := Option.isSome_iff_exists.mp (hexDigit?_of_mem hi hhi)
    obtain ⟨n, hn⟩ := Option.isSome_iff_exists.mp (hexDigit?_of_mem lo hlo)
    have htail : word.length % 2 = 0 := by
      simp only [List.length_cons] at heven
      omega
    obtain ⟨cs, hcs⟩ := decodeHex_digits hword htail
    exact ⟨Char.ofNat (16 * m + n) :: cs, by simp [decodeHex, pairChar?_digits hm hn, hcs]⟩

/-- The digits of bytes are decoded to the characters with these codes. -/
theorem decodeHex_hexOf {word : List Char} {bytes : List UInt8}
    (h : word.map Char.toLower = hexOf bytes) :
    decodeHex (word.map byteOf) = some (bytes.map fun b => Char.ofNat b.toNat) := by
  induction bytes generalizing word with
  | nil =>
    obtain rfl := List.map_eq_nil_iff.mp h
    rfl
  | cons b bytes ih =>
    obtain ⟨hi, tail, rfl, hhi, htail⟩ := List.map_eq_cons_iff.mp h
    obtain ⟨lo, word, rfl, hlo, hword⟩ := List.map_eq_cons_iff.mp htail
    have hsize : b.toNat < 256 := b.toNat_lt_size
    have hpair := pairChar?_digits (hexDigit?_of_toLower (by omega) hhi)
      (hexDigit?_of_toLower (by omega) hlo)
    rw [Nat.div_add_mod] at hpair
    simp [decodeHex, hpair, ih hword]

/-! ### Words -/

/-- The bytes of a word. -/
def bytesOf (word : List Char) : List UInt8 :=
  word.flatMap String.utf8EncodeChar

theorem bytesOf_digits {word : List Char} (h : ∀ c ∈ word, c ∈ hexDigits) :
    bytesOf word = word.map byteOf :=
  Utf8.flatMap_encodeChar_of_ascii fun c hc => ascii_of_hexDigits c (h c hc)

theorem even_of_decodeHex {bytes : List UInt8} {cs : List Char} (h : decodeHex bytes = some cs) :
    bytes.length % 2 = 0 := by
  induction bytes using decodeHex.induct generalizing cs with
  | case1 => rfl
  | case2 a b rest ih =>
    obtain ⟨c, hc, hmore⟩ := Option.bind_eq_some_iff.mp h
    obtain ⟨cs, hcs, -⟩ := Option.bind_eq_some_iff.mp hmore
    have := ih hcs
    simp only [List.length_cons]
    omega
  | case3 a => cases h

theorem passwordOf_eq_ok_iff {word : List Char} {s : String} :
    passwordOf (String.ofList word) = .ok s ↔
      ∃ cs, decodeHex (bytesOf word) = some cs ∧ s = String.ofList cs := by
  simp only [passwordOf, bytesOf, Utf8.encode_data, String.toList_ofList]
  generalize word.flatMap String.utf8EncodeChar = bytes
  cases hcs : decodeHex bytes with
  | none =>
    refine iff_of_false (fun h => ?_) (fun ⟨cs, h, _⟩ => nomatch h)
    split at h <;> cases h
  | some cs => simp [even_of_decodeHex hcs, eq_comm]

/-- What is refused is named, with what is wrong about it. -/
theorem passwordOf_eq_error {word : String} {f : Failure} (h : passwordOf word = .error f) :
    ∃ fault ∈ ["odd-length", "invalid"],
      f = .parse "TPM owner password" (fault ++ " hex '" ++ word ++ "'") := by
  unfold passwordOf at h
  dsimp only at h
  split at h
  · obtain rfl := Except.error.inj h
    exact ⟨"odd-length", by simp, rfl⟩
  · split at h
    · cases h
    · obtain rfl := Except.error.inj h
      exact ⟨"invalid", by simp, rfl⟩

/-- A word is read just if it is made of pairs of digits. -/
theorem passwordOf_ok_iff {word : List Char} (h : '+' ∉ word) :
    (∃ s, passwordOf (String.ofList word) = .ok s) ↔
      word.length % 2 = 0 ∧ ∀ c ∈ word, c ∈ hexDigits := by
  constructor
  · rintro ⟨s, hs⟩
    obtain ⟨cs, hcs, -⟩ := passwordOf_eq_ok_iff.mp hs
    have hdigits : ∀ c ∈ word, c ∈ hexDigits := fun c hc =>
      (marks_of_decodeHex hcs c hc).resolve_right fun hplus => h (hplus ▸ hc)
    have heven := even_of_decodeHex hcs
    rw [bytesOf_digits hdigits, List.length_map] at heven
    exact ⟨heven, hdigits⟩
  · rintro ⟨heven, hdigits⟩
    obtain ⟨cs, hcs⟩ := decodeHex_digits hdigits heven
    exact ⟨_, passwordOf_eq_ok_iff.mpr ⟨cs, bytesOf_digits hdigits ▸ hcs, rfl⟩⟩

/-- Digits of either letter case are read as the bytes that they spell. -/
theorem passwordOf_hexOf {word : List Char} {bytes : List UInt8}
    (h : word.map Char.toLower = hexOf bytes) :
    passwordOf (String.ofList word) =
      .ok (String.ofList (bytes.map fun b => Char.ofNat b.toNat)) := by
  have hcs := decodeHex_hexOf h
  have hdigits : ∀ c ∈ word, c ∈ hexDigits := mem_of_map_toLower h
  exact passwordOf_eq_ok_iff.mpr ⟨_, bytesOf_digits hdigits ▸ hcs, rfl⟩

/-! ### Reports -/

/-- What stands in front of the password. -/
def label : List Char := "owner_password: ".toList

/-- The text stands behind the first label. -/
def Follows (out : String) (text : List Char) : Prop :=
  ∃ front, out.toList = front ++ label ++ text ∧
    ∀ earlier, earlier ++ label <+: out.toList → front.length ≤ earlier.length

instance (out : String) (text : List Char) : Decidable (Follows out text) :=
  decidable_of_iff _ Text.afterFirst_eq_some_iff

/-- What the characters of words are taken to be: digits are among them, and neither the
sign nor blanks are. -/
structure Words (isWord : Char → Bool) : Prop where
  digit : ∀ c ∈ hexDigits, isWord c = true
  sign : isWord '+' = false
  blank : ∀ c, Text.isBlank c = true → isWord c = false

/-- The letters, marks and digits of all scripts do. -/
theorem words_isWord : Words Unicode.isWord where
  digit := List.all_eq_true.mp (by decide)
  sign := by decide
  blank _ := Unicode.isWord_of_isBlank

/-- The word goes no further. -/
def Ends (isWord : Char → Bool) (rest : List Char) : Prop :=
  ∀ c ∈ rest.head?, isWord c = false

instance (isWord : Char → Bool) (rest : List Char) : Decidable (Ends isWord rest) :=
  Option.decidableForallMem rest.head?

section
variable {isWord : Char → Bool}

theorem takeWhile_eq_nil {rest : List Char} (h : Ends isWord rest) :
    rest.takeWhile isWord = [] := by
  cases rest with
  | nil => rfl
  | cons c rest => exact List.takeWhile_cons_of_neg (by simp [h c rfl])

theorem takeWhile_word {word rest : List Char} (hword : ∀ c ∈ word, isWord c = true)
    (hrest : Ends isWord rest) : (word ++ rest).takeWhile isWord = word := by
  rw [List.takeWhile_append_of_pos hword, takeWhile_eq_nil hrest, List.append_nil]

theorem ends_of_blank (words : Words isWord) {blanks : List Char}
    (h : ∀ c ∈ blanks, Text.isBlank c = true) : Ends isWord blanks := fun c hc =>
  words.blank c (h c (List.mem_of_mem_head? hc))

/-- Blanks at the end of a report belong to no word. -/
theorem takeWhile_append_blanks (words : Words isWord) {blanks : List Char}
    (h : ∀ c ∈ blanks, Text.isBlank c = true) (rest : List Char) :
    (rest ++ blanks).takeWhile isWord = rest.takeWhile isWord := by
  rw [List.takeWhile_append, takeWhile_eq_nil (ends_of_blank words h), List.append_nil]
  split
  · next hall => exact ((List.takeWhile_prefix _).eq_of_length hall).symm
  · rfl

theorem passwordWord_eq (isWord : Char → Bool) (out : String) :
    passwordWord isWord out = (Text.afterFirst label out.toList).map fun rest =>
      String.ofList (rest.takeWhile isWord) :=
  rfl

theorem passwordWord_eq_none_iff {out : String} :
    passwordWord isWord out = none ↔ ¬ label <:+: out.toList := by
  rw [← Text.isSome_afterFirst_iff, passwordWord_eq, Option.map_eq_none_iff,
    Option.not_isSome_iff_eq_none]

theorem passwordWord_of_follows {out : String} {word rest : List Char}
    (h : Follows out (word ++ rest)) (hword : ∀ c ∈ word, isWord c = true)
    (hrest : Ends isWord rest) : passwordWord isWord out = some (String.ofList word) := by
  have hfirst : Text.afterFirst label out.toList = some (word ++ rest) :=
    Text.afterFirst_eq_some_iff.mpr h
  rw [passwordWord_eq, hfirst, Option.map_some, takeWhile_word hword hrest]

/-- The word is the same with and without blanks around the report. -/
theorem passwordWord_trim (words : Words isWord) (out : String) :
    (passwordWord isWord (Text.trim out)).getD "" = (passwordWord isWord out).getD "" := by
  obtain ⟨blanks, hout, hblanks⟩ := Text.dropBlankEnd_spec (Text.dropBlank out.toList)
  have hfront : Text.afterFirst label (Text.dropBlank out.toList) =
      Text.afterFirst label out.toList :=
    Text.afterFirst_dropWhile (by decide) _ _
  have htrim : (Text.trim out).toList = Text.dropBlankEnd (Text.dropBlank out.toList) :=
    String.toList_ofList
  rw [passwordWord_eq, passwordWord_eq, ← hfront, hout, htrim]
  generalize Text.dropBlankEnd (Text.dropBlank out.toList) = text
  cases hleft : Text.afterFirst label text with
  | some rest =>
    rw [Text.afterFirst_append hleft, Option.map_some, Option.map_some,
      takeWhile_append_blanks words hblanks]
  | none =>
    cases hright : Text.afterFirst label (text ++ blanks) with
    | none => rfl
    | some rest =>
      have hrest := (Text.suffix_of_afterFirst_append hleft hright).subset
      rw [Option.map_some,
        takeWhile_eq_nil (ends_of_blank words fun c hc => hblanks c (hrest hc))]
      rfl

end

/-- The password in a report, or what is wrong with it. -/
def reported (isWord : Char → Bool) (out : String) : Except Failure String :=
  passwordOf ((passwordWord isWord out).getD "")

section
variable {σ : Type} {answer : (q : Request) → σ → q.Reply × σ} {s : σ} {reply : Output}

/-- The command that prints the report. -/
def statusCommand : Command :=
  (Command.of [client, "status"]).ignoringStatus.mergingStderr

/-- What is made of the output of a command that succeeds. -/
theorem run_output {α : Type} {c : Command}
    (h : (answer (.run c) s).1 = (.ok reply : Except Failure Output)) (f : String → Session α) :
    (ExceptT.run (Session.output c >>= f)).run answer s =
      (ExceptT.run (f (Text.trim reply.out))).run answer (answer (.run c) s).2 := by
  have hrun : (ExceptT.run (Session.run c)).run answer s =
      (.ok reply, (answer (.run c) s).2) := Prod.ext h rfl
  rw [Session.output, bind_assoc, ExceptT.run_bind]
  change Dialogue.run answer (Dialogue.bind _ _) s = _
  rw [Dialogue.run_bind, hrun]
  rfl

/-- Once there is a report, the session ends with what it says. -/
theorem run_password {isWord : Char → Bool} (words : Words isWord)
    (h : (answer (.run statusCommand) s).1 = (.ok reply : Except Failure Output)) :
    ((ExceptT.run (password isWord)).run answer s).1 = reported isWord reply.out := by
  rw [password, ask, ← statusCommand, run_output h, reported, ← passwordWord_trim words]
  cases passwordWord isWord (Text.trim reply.out) <;> rfl

end

/-- **A password is read just if the word behind the first label spells bytes.** The characters
of the password then have these bytes as codes, whatever case the digits are in. A word of
another kind is refused, even if its characters take two bytes or more, and no label is no
password. That is so whatever characters of other scripts count for words. -/
theorem password_decodes {isWord : Char → Bool} (words : Words isWord) {σ : Type}
    (answer : (q : Request) → σ → q.Reply × σ) (s : σ) (reply : Output)
    (h : (answer (.run statusCommand) s).1 = (.ok reply : Except Failure Output)) :
    let result := ((ExceptT.run (password isWord)).run answer s).1
    (¬ label <:+: reply.out.toList → result = .ok "") ∧
    (∀ digits rest bytes, Follows reply.out (digits ++ rest) →
      digits.map Char.toLower = hexOf bytes → Ends isWord rest →
      result = .ok (String.ofList (bytes.map fun b => Char.ofNat b.toNat))) ∧
    ∀ word rest, Follows reply.out (word ++ rest) → (∀ c ∈ word, isWord c = true) →
      Ends isWord rest →
      ((∃ password, result = .ok password) ↔
        word.length % 2 = 0 ∧ ∀ c ∈ word, c ∈ hexDigits) ∧
      ∀ f, result = .error f → ∃ fault ∈ ["odd-length", "invalid"],
        f = .parse "TPM owner password" (fault ++ " hex '" ++ String.ofList word ++ "'") := by
  intro result
  have hresult : result = reported isWord reply.out := run_password words h
  rw [hresult, reported]
  refine ⟨fun hlabel => ?_, fun digits rest bytes hout hdigits hrest => ?_,
    fun word rest hout hword hrest => ?_⟩
  · rw [passwordWord_eq_none_iff.mpr hlabel]
    rfl
  · have hword : ∀ c ∈ digits, isWord c = true := fun c hc =>
      words.digit c (mem_of_map_toLower hdigits c hc)
    rw [passwordWord_of_follows hout hword hrest, Option.getD_some, passwordOf_hexOf hdigits]
  · have hplus : '+' ∉ word := fun hmem => by cases words.sign.symm.trans (hword _ hmem)
    rw [passwordWord_of_follows hout hword hrest, Option.getD_some]
    exact ⟨passwordOf_ok_iff hplus, fun f hf => passwordOf_eq_error hf⟩

/-- A device on which commands print a report. -/
def printing (out : String) : (q : Request) → Nat → q.Reply × Nat
  | .run c, t => (.ok ⟨c.shellLine, some 0, out, ""⟩, t)
  | q, t => Poll.idle q t

/-- Digits in both cases are read, in front of another label; a letter of two bytes is
refused, where its bytes fall in two pairs as well. -/
theorem password_decodes_mixed :
    let read (out : String) :=
      ((ExceptT.run (password Unicode.isWord)).run (printing out) 0).1
    read "owned: true\nowner_password: 7aE9\nowner_password: 00\n" = .ok "zé" ∧
      ∃ fault ∈ ["odd-length", "invalid"], read "owner_password: aé1\n" =
        .error (.parse "TPM owner password" (fault ++ " hex '" ++ "aé1" ++ "'")) := by
  intro read
  constructor
  · exact (password_decodes words_isWord (printing _) 0 _ rfl).2.1 "7aE9".toList
      "\nowner_password: 00\n".toList [0x7a, 0xe9] (by decide) (by decide) (by decide)
  · have hletter : Unicode.isWord 'é' = true := by
      refine Unicode.isWord_of_category (k := .lowercaseLetter) (by decide) (by decide) ?_
      unfold Unicode.Category.ranges
      dsimp only [Unicode.Category.table]
      rw [Unicode.Ranges.ofTable_ofList]
      decide +kernel
    have hword : ∀ c ∈ ['a', 'é', '1'], Unicode.isWord c = true := by
      simp only [List.forall_mem_cons, hletter, List.not_mem_nil, false_imp_iff, implies_true,
        and_true, true_and]
      decide
    obtain ⟨hread, hrefused⟩ :=
      (password_decodes words_isWord (printing "owner_password: aé1\n") 0 _ rfl).2.2
        ['a', 'é', '1'] ['\n'] (by decide) hword (by decide)
    cases hresult : read "owner_password: aé1\n" with
    | ok password => cases (hread.mp ⟨password, hresult⟩).1
    | error f =>
      obtain ⟨fault, hfault, rfl⟩ := hrefused f hresult
      exact ⟨fault, hfault, rfl⟩

end DeviceLab.Device.Tpm

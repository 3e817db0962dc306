import DeviceLab.Json.Reader
import DeviceLab.Json.Writer
import DeviceLab.Proofs.Text

/-! What is read of a text that was written.

The scan goes through a text piece by piece, and what a piece gives does not hang
on what follows it (`Scans`). Only a number or a word has to be followed by
something that could not belong to it (`Gives`). So a datum whose parts are all
kept by their texts (`Lossless`) gives its own tokens, over several lines
(`gives_indented`) or on one (`gives_compact`), and the reader builds it again from
those (`read?_of_gives`). -/
namespace DeviceLab.Json

/-! ### Numbers -/

/-- The digits of a number, highest first. -/
def digitsOf (n : Nat) : List Nat :=
  (Nat.toDigits 10 n).map fun c => c.toNat - '0'.toNat

theorem digitRun_of_isDigit {cs : List Char} (h : ∀ c ∈ cs, c.isDigit = true) :
    Numeral.digitRun cs = (cs.map fun c => c.toNat - '0'.toNat, []) := by
  induction cs with
  | nil => rfl
  | cons c cs ih =>
    have hc := Reading.digit?_of_isDigit (h c (List.mem_cons_self ..))
    have hcs := ih fun d hd => h d (List.mem_cons_of_mem c hd)
    simp only [Numeral.digitRun, hc, hcs, List.map_cons]

theorem digitRun_toDigits (n : Nat) :
    Numeral.digitRun (Nat.toDigits 10 n) = (digitsOf n, []) :=
  digitRun_of_isDigit fun _ hc => Nat.isDigit_of_mem_toDigits (by decide) (by decide) hc

theorem digitChar_value : ∀ d < 10, (Nat.digitChar d).toNat - '0'.toNat = d := by decide

theorem digitsOf_eq (n : Nat) :
    digitsOf n = if n < 10 then [n] else digitsOf (n / 10) ++ [n % 10] := by
  unfold digitsOf
  rw [Nat.toDigits_eq_if (by decide)]
  split
  · next h => simp only [List.map_cons, List.map_nil, digitChar_value n h]
  · simp only [List.map_append, List.map_cons, List.map_nil,
      digitChar_value _ (Nat.mod_lt n (by decide))]

/-- Only the number zero starts with a zero. -/
theorem head?_digitsOf (n : Nat) : 0 < n → (digitsOf n).head? ≠ some 0 := by
  induction n using Nat.strongRecOn with
  | ind n ih =>
    intro hn
    rw [digitsOf_eq]
    split
    · simpa using Nat.ne_of_gt hn
    · have hfirst := ih (n / 10) (by omega) (by omega)
      cases hdigits : digitsOf (n / 10) with
      | nil => exact absurd (List.map_eq_nil_iff.mp hdigits) Nat.toDigits_ne_nil
      | cons d ds => simpa [hdigits] using hfirst

theorem wholeOk_digitsOf (n : Nat) : Numeral.wholeOk (digitsOf n) = true := by
  by_cases h : n < 10
  · rw [digitsOf_eq, if_pos h]
    rfl
  · have hfirst := head?_digitsOf n (by omega)
    rw [digitsOf_eq, if_neg h] at hfirst ⊢
    cases hdigits : digitsOf (n / 10) with
    | nil => rfl
    | cons d ds =>
      rw [hdigits] at hfirst
      cases ds <;> simpa [Numeral.wholeOk] using hfirst

theorem take_append {n m d : Nat} {ds : List Nat} (h : Numeral.take n ds = (m, ds.length))
    (hk : 10 * m + d ≤ Reading.maxWord64) :
    Numeral.take n (ds ++ [d]) = (10 * m + d, ds.length + 1) := by
  induction ds generalizing n with
  | nil =>
    cases h
    simp [Numeral.take, hk]
  | cons c ds ih =>
    simp only [Numeral.take, List.cons_append] at h ⊢
    split at h
    · next hc =>
      simp only [Prod.mk.injEq, List.length_cons, Nat.add_right_cancel_iff] at h
      rw [if_pos hc, ih (by rw [← h.1, ← h.2])]
      rfl
    · simp at h

/-- All digits of a number that fits are taken. -/
theorem take_digitsOf (n : Nat) : n ≤ Reading.maxWord64 →
    Numeral.take 0 (digitsOf n) = (n, (digitsOf n).length) := by
  induction n using Nat.strongRecOn with
  | ind n ih =>
    intro hn
    rw [digitsOf_eq]
    split
    · simp [Numeral.take, hn]
    · have hfront := ih (n / 10) (by omega) (by omega)
      rw [take_append hfront (by omega), List.length_append]
      simp only [List.length_singleton, Prod.mk.injEq, and_true]
      omega

theorem of?_toDigits (n : Nat) :
    Numeral.of? (Nat.toDigits 10 n) = some ⟨false, digitsOf n, none, none⟩ := by
  have hrun := digitRun_toDigits n
  have hok := wholeOk_digitsOf n
  unfold Numeral.of?
  split
  · next hcut =>
    split at hcut
    · next cs hcs =>
      -- A digit is no sign.
      have : '-'.isDigit = true :=
        Nat.isDigit_of_mem_toDigits (n := n) (b := 10) (by decide) (by decide)
          (hcs ▸ List.mem_cons_self ..)
      simp at this
    · cases hcut
      simp [hrun, hok, Numeral.exponentOf]

theorem of?_minus_toDigits (n : Nat) :
    Numeral.of? ('-' :: Nat.toDigits 10 n) = some ⟨true, digitsOf n, none, none⟩ := by
  simp [Numeral.of?, digitRun_toDigits, wholeOk_digitsOf, Numeral.exponentOf]

theorem value_digitsOf (negative : Bool) {n : Nat} (h : n ≤ Reading.maxWord64) :
    Numeral.value ⟨negative, digitsOf n, none, none⟩ = Numeral.integer negative n := by
  simp [Numeral.value, take_digitsOf n h]

/-- The integers that are read as what they are. -/
def Fits (n : Int) : Prop := -Int.ofNat (Nat.pow 2 63) ≤ n ∧ n ≤ Reading.maxWord64

theorem toList_negSucc (m : Nat) :
    (toString (Int.negSucc m)).toList = '-' :: Nat.toDigits 10 (m + 1) := by
  change ("-" ++ (m + 1).repr).toList = _
  rw [String.toList_append, Nat.toList_repr]
  rfl

theorem numeral_toString {n : Int} (h : Fits n) :
    (Numeral.of? (toString n).toList).map Numeral.value = some (.int n) := by
  cases n with
  | ofNat m =>
    have hm : m ≤ Reading.maxWord64 := by
      have := h.2
      simp at this
      omega
    have hshown : (toString (Int.ofNat m)).toList = Nat.toDigits 10 m := Nat.toList_repr
    rw [hshown, of?_toDigits, Option.map_some, value_digitsOf false hm]
    rfl
  | negSucc m =>
    have hm : m + 1 ≤ Nat.pow 2 63 := Int.ofNat_le.mp (Int.neg_le_neg_iff.mp h.1)
    have hword : m + 1 ≤ Reading.maxWord64 := Nat.le_trans hm (by decide)
    have hnot : ¬ m + 1 > Nat.pow 2 63 := Nat.not_lt.mpr hm
    rw [toList_negSucc, of?_minus_toDigits, Option.map_some, value_digitsOf true hword]
    simp [Numeral.integer, hnot, Int.negSucc_eq]

/-! ### The scan -/

theorem scan?_cons (mode : Mode) (c : Char) (cs : List Char) :
    scan? mode (c :: cs) =
      (next? c mode).bind fun step => (scan? step.2 cs).map (step.1 ++ ·) := by
  rw [scan?]
  cases next? c mode with
  | none => rfl
  | some step => cases h : scan? step.2 cs <;> simp [bind, h]

/-- Whatever follows the characters, they give the tokens and leave the scan in a mode. -/
def Scans (mode : Mode) (cs : List Char) (ts : List Token) (after : Mode) : Prop :=
  ∀ rest, scan? mode (cs ++ rest) = (scan? after rest).map (ts ++ ·)

theorem scans_nil (mode : Mode) : Scans mode [] [] mode := by
  intro rest
  simp

theorem scans_of_next {mode after : Mode} {c : Char} {ts : List Token}
    (h : next? c mode = some (ts, after)) : Scans mode [c] ts after := by
  intro rest
  rw [List.singleton_append, scan?_cons, h]
  rfl

theorem scans_begin {c : Char} {ts : List Token} {after : Mode} (h : begin? c = some (ts, after)) :
    Scans .between [c] ts after :=
  scans_of_next h

theorem Scans.append {mode middle after : Mode} {cs ds : List Char} {ts us : List Token}
    (h : Scans mode cs ts middle) (h' : Scans middle ds us after) :
    Scans mode (cs ++ ds) (ts ++ us) after := by
  intro rest
  rw [List.append_assoc, h, h', Option.map_map]
  simp [Function.comp_def]

/-! ### Strings -/

theorem hexDigit?_hexChar : ∀ n < 16, hexDigit? (hexChar n) = some n := by decide

theorem scans_backslash (q : Quoted) : Scans (.quoted q) ['\\'] [] (.escape q) :=
  scans_of_next rfl

theorem scans_hex {q : Quoted} {c : Char} {n d owed : Nat} (h : hexDigit? c = some d) :
    Scans (.hex q n (owed + 1)) [c] [] (.hex q (16 * n + d) owed) :=
  scans_of_next (by simp [next?, h])

theorem scans_hex_last {q : Quoted} {c : Char} {n d : Nat} (h : hexDigit? c = some d) :
    Scans (.hex q n 0) [c] [] (.quoted (q.unit (16 * n + d))) :=
  scans_of_next (by simp [next?, h])

/-- A character of one letter behind a backslash. -/
theorem scans_short (q : Quoted) {d e : Char} (hd : d ≠ 'u') (he : escaped? d = some e) :
    Scans (.quoted q) ['\\', d] [] (.quoted (q.push e)) :=
  (scans_backslash q).append (scans_of_next (by simp [next?, hd, he]))

/-- A control character by its code unit. -/
theorem scans_control (q : Quoted) {c : Char} (h : c.toNat < 0x20) :
    Scans (.quoted q) ['\\', 'u', '0', '0', hexChar (c.toNat / 16), hexChar (c.toNat % 16)] []
      (.quoted (q.push c)) := by
  have hzero : hexDigit? '0' = some 0 := by decide
  have hhigh := hexDigit?_hexChar (c.toNat / 16) (by omega)
  have hlow := hexDigit?_hexChar (c.toNat % 16) (by omega)
  have hunit : q.unit (16 * (16 * (16 * (16 * 0 + 0) + 0) + c.toNat / 16) + c.toNat % 16) =
      q.push c := by
    have hsum : 16 * (16 * (16 * (16 * 0 + 0) + 0) + c.toNat / 16) + c.toNat % 16 = c.toNat := by
      omega
    rw [hsum, Quoted.unit, if_neg (by simp; omega), if_neg (by simp; omega), Char.ofNat_toNat]
  have hu : Scans (.escape q) ['u'] [] (.hex q 0 3) := scans_of_next rfl
  rw [← hunit]
  exact (scans_backslash q).append (hu.append ((scans_hex hzero).append
    ((scans_hex hzero).append ((scans_hex hhigh).append (scans_hex_last hlow)))))

/-- A character with its escape is read as itself. -/
theorem scans_escape (q : Quoted) (c : Char) :
    Scans (.quoted q) (escape c) [] (.quoted (q.push c)) := by
  unfold escape
  split
  · exact scans_short q (by decide) rfl
  · exact scans_short q (by decide) rfl
  · exact scans_short q (by decide) rfl
  · exact scans_short q (by decide) rfl
  · exact scans_short q (by decide) rfl
  · exact scans_short q (by decide) rfl
  · exact scans_short q (by decide) rfl
  · next hquote hslash _ _ _ _ _ =>
    split
    · next hcontrol => exact scans_control q hcontrol
    · next hplain =>
      have hquote' : c ≠ '"' := hquote
      have hslash' : c ≠ '\\' := hslash
      exact scans_of_next (by simp [next?, hquote', hslash', hplain])

theorem scans_escaped (q : Quoted) (cs : List Char) :
    Scans (.quoted q) (cs.flatMap escape) [] (.quoted (cs.foldl Quoted.push q)) := by
  induction cs generalizing q with
  | nil => exact scans_nil _
  | cons c cs ih => exact (scans_escape q c).append (ih (q.push c))

theorem foldl_push (q : Quoted) (cs : List Char) (hq : q.high = none) :
    cs.foldl Quoted.push q = ⟨cs.reverse ++ q.read, none, q.broken⟩ := by
  induction cs generalizing q with
  | nil => simp [← hq]
  | cons c cs ih =>
    rw [List.foldl_cons, ih (q.push c) rfl]
    simp [Quoted.push, hq]

/-- A text in quotes is read as itself. -/
theorem scans_quote (s : String) :
    Scans .between (quote s).toList [.text (some s)] .between := by
  have hopen : Scans .between ['"'] [] (.quoted .start) := scans_of_next rfl
  have hclose :
      Scans (.quoted (s.toList.foldl Quoted.push .start)) ['"'] [.text (some s)] .between := by
    rw [foldl_push .start s.toList rfl]
    refine scans_of_next ?_
    simp [next?, Quoted.finish, Quoted.start]
  have := hopen.append ((scans_escaped .start s.toList).append hclose)
  simpa [quote] using this

/-! ### Blanks and marks -/

theorem scans_blanks {cs : List Char} (h : ∀ c ∈ cs, isJsonBlank c = true) :
    Scans .between cs [] .between := by
  induction cs with
  | nil => exact scans_nil _
  | cons c cs ih =>
    have hc : Scans .between [c] [] .between :=
      scans_of_next (by simp [next?, begin?, h c (List.mem_cons_self ..)])
    exact hc.append (ih fun d hd => h d (List.mem_cons_of_mem c hd))

theorem scans_newline (indent : Nat) : Scans .between (newline indent).toList [] .between := by
  refine scans_blanks fun c hc => ?_
  simp only [newline, String.toList_ofList, List.mem_cons, List.mem_replicate] at hc
  rcases hc with rfl | ⟨-, rfl⟩ <;> rfl

/-! ### Runs -/

/-- Nothing that could belong to a number or a word in front of it. -/
def Apart (rest : List Char) : Prop :=
  ∀ c ∈ rest.head?, isNumberChar c = false ∧ c.isLower = false

/-- In front of what stands apart, the characters give the tokens. -/
def Gives (cs : List Char) (ts : List Token) : Prop :=
  ∀ rest, Apart rest → scan? .between (cs ++ rest) = (scan? .between rest).map (ts ++ ·)

theorem Scans.gives {cs : List Char} {ts : List Token} (h : Scans .between cs ts .between) :
    Gives cs ts := fun rest _ => h rest

theorem scan?_number (run : List Char) {rest : List Char} (h : Apart rest) :
    scan? (.number run) rest =
      (numberToken? run).bind fun t => (scan? .between rest).map (t :: ·) := by
  cases rest with
  | nil => cases ht : numberToken? run <;> simp [scan?, close?, ht]
  | cons c cs =>
    have hc := (h c rfl).1
    rw [scan?_cons, scan?_cons]
    cases ht : numberToken? run with
    | none => simp [next?, hc, ht]
    | some t => cases hb : begin? c <;> simp [next?, hc, ht, hb, Function.comp_def]

theorem scan?_word (run : List Char) {rest : List Char} (h : Apart rest) :
    scan? (.word run) rest =
      (wordToken? run).bind fun t => (scan? .between rest).map (t :: ·) := by
  cases rest with
  | nil => cases ht : wordToken? run <;> simp [scan?, close?, ht]
  | cons c cs =>
    have hc := (h c rfl).2
    rw [scan?_cons, scan?_cons]
    cases ht : wordToken? run with
    | none => simp [next?, hc, ht]
    | some t => cases hb : begin? c <;> simp [next?, hc, ht, hb, Function.comp_def]

theorem scans_run {run cs : List Char} (h : ∀ c ∈ cs, isNumberChar c = true) :
    Scans (.number run) cs [] (.number (cs.reverse ++ run)) := by
  induction cs generalizing run with
  | nil => exact scans_nil _
  | cons c cs ih =>
    have hc : Scans (.number run) [c] [] (.number (c :: run)) :=
      scans_of_next (by simp [next?, h c (List.mem_cons_self ..)])
    have := hc.append (ih fun d hd => h d (List.mem_cons_of_mem c hd))
    simpa using this

theorem scans_letters {run cs : List Char} (h : ∀ c ∈ cs, c.isLower = true) :
    Scans (.word run) cs [] (.word (cs.reverse ++ run)) := by
  induction cs generalizing run with
  | nil => exact scans_nil _
  | cons c cs ih =>
    have hc : Scans (.word run) [c] [] (.word (c :: run)) :=
      scans_of_next (by simp [next?, h c (List.mem_cons_self ..)])
    have := hc.append (ih fun d hd => h d (List.mem_cons_of_mem c hd))
    simpa using this

theorem gives_number {c : Char} {cs : List Char} {t : Token}
    (hc : begin? c = some ([], .number [c])) (hcs : ∀ c ∈ cs, isNumberChar c = true)
    (ht : numberToken? (cs.reverse ++ [c]) = some t) : Gives (c :: cs) [t] := by
  intro rest hrest
  have hrun := (scans_begin hc).append (scans_run hcs) rest
  rw [List.singleton_append] at hrun
  rw [hrun, scan?_number _ hrest, ht]
  cases scan? .between rest <;> rfl

theorem gives_word {c : Char} {cs : List Char} {t : Token}
    (hc : begin? c = some ([], .word [c])) (hcs : cs.all Char.isLower = true)
    (ht : wordToken? (cs.reverse ++ [c]) = some t) : Gives (c :: cs) [t] := by
  intro rest hrest
  have hrun := (scans_begin hc).append (scans_letters (List.all_eq_true.mp hcs)) rest
  rw [List.singleton_append] at hrun
  rw [hrun, scan?_word _ hrest, ht]
  cases scan? .between rest <;> rfl

theorem gives_null : Gives "null".toList [.plain .null] := by
  have hshown : "null".toList = 'n' :: ['u', 'l', 'l'] := by decide
  rw [hshown]
  exact gives_word rfl rfl rfl

theorem gives_true : Gives "true".toList [.plain (.bool true)] := by
  have hshown : "true".toList = 't' :: ['r', 'u', 'e'] := by decide
  rw [hshown]
  exact gives_word rfl rfl rfl

theorem gives_false : Gives "false".toList [.plain (.bool false)] := by
  have hshown : "false".toList = 'f' :: ['a', 'l', 's', 'e'] := by decide
  rw [hshown]
  exact gives_word rfl rfl rfl

/-! ### Data -/

mutual

/-- Written and read, the datum is the same. A fraction may be one off, and a point
in time is read as a text. -/
def Lossless : Datum → Prop
  | .null | .bool _ | .text _ => True
  | .int n => Fits n
  | .list items => ItemsLossless items
  | .table fields => FieldsLossless fields
  | _ => False

def ItemsLossless : List Datum → Prop
  | [] => True
  | d :: rest => Lossless d ∧ ItemsLossless rest

def FieldsLossless : List (String × Datum) → Prop
  | [] => True
  | (_, d) :: rest => Lossless d ∧ FieldsLossless rest

end

mutual

/-- The tokens of a datum, however it is written. -/
def tokens : Datum → List Token
  | .list items => .openList :: (itemTokens items ++ [.closeList])
  | .table fields => .openTable :: (fieldTokens fields ++ [.closeTable])
  | .text s => [.text (some s)]
  | d => [.plain d]

def itemTokens : List Datum → List Token
  | [] => []
  | [d] => tokens d
  | d :: rest => tokens d ++ .comma :: itemTokens rest

def fieldTokens : List (String × Datum) → List Token
  | [] => []
  | [(k, d)] => .text (some k) :: .colon :: tokens d
  | (k, d) :: rest => .text (some k) :: .colon :: (tokens d ++ .comma :: fieldTokens rest)

end

theorem begin?_digit {c : Char} (h : c.isDigit = true) : begin? c = some ([], .number [c]) := by
  have hne : ∀ d : Char, d.isDigit = false → c ≠ d := by
    rintro d hd rfl
    rw [h] at hd
    cases hd
  have hblank : isJsonBlank c = false := by
    simp [isJsonBlank, hne ' ' rfl, hne '\n' rfl, hne '\t' rfl, hne '\r' rfl]
  simp [begin?, hblank, hne '"' rfl, Reading.isDigit, Reading.digit?_of_isDigit h]

theorem isNumberChar_of_mem_toDigits {n : Nat} {c : Char} (h : c ∈ Nat.toDigits 10 n) :
    isNumberChar c = true := by
  have := Nat.isDigit_of_mem_toDigits (by decide) (by decide) h
  simp [isNumberChar, Reading.isDigit, Reading.digit?_of_isDigit this]

theorem gives_int {n : Int} (h : Fits n) : Gives (toString n).toList [.plain (.int n)] := by
  have hvalue := numeral_toString h
  have htoken : ∀ {c cs}, (toString n).toList = c :: cs →
      numberToken? (cs.reverse ++ [c]) = some (.plain (.int n)) := by
    intro c cs hcs
    have hrun : (cs.reverse ++ [c]).reverse = (toString n).toList := by
      rw [hcs, List.reverse_append, List.reverse_reverse]
      rfl
    obtain ⟨numeral, hof, hval⟩ := Option.map_eq_some_iff.mp hvalue
    rw [numberToken?, hrun, hof, Option.map_some, hval]
  cases n with
  | ofNat m =>
    have hshown : (toString (Int.ofNat m)).toList = Nat.toDigits 10 m := Nat.toList_repr
    obtain ⟨c, cs, hcs⟩ := List.exists_cons_of_ne_nil (Nat.toDigits_ne_nil (n := m) (b := 10))
    have hdigits := hcs ▸ fun d hd => isNumberChar_of_mem_toDigits (n := m) (c := d) hd
    have hc : c.isDigit = true :=
      Nat.isDigit_of_mem_toDigits (by decide) (by decide) (hcs ▸ List.mem_cons_self ..)
    rw [hshown, hcs]
    exact gives_number (begin?_digit hc) (fun d hd => hdigits d (List.mem_cons_of_mem _ hd))
      (htoken (hshown.trans hcs))
  | negSucc m =>
    rw [toList_negSucc]
    exact gives_number rfl (fun d hd => isNumberChar_of_mem_toDigits hd) (htoken (toList_negSucc m))

/-! ### Pieces in a row -/

theorem Scans.gives_append {cs ds : List Char} {ts us : List Token}
    (h : Scans .between cs ts .between) (h' : Gives ds us) : Gives (cs ++ ds) (ts ++ us) := by
  intro rest hrest
  rw [List.append_assoc, h, h' rest hrest, Option.map_map]
  simp [Function.comp_def]

/-- What follows starts with a character that stands apart from a number or a word. -/
theorem Gives.append {cs ds : List Char} {ts us : List Token} (h : Gives cs ts)
    (hds : ∀ rest, Apart (ds ++ rest)) (h' : Gives ds us) : Gives (cs ++ ds) (ts ++ us) := by
  intro rest hrest
  rw [List.append_assoc, h _ (hds rest), h' rest hrest, Option.map_map]
  simp [Function.comp_def]

theorem apart_cons {c : Char} (cs : List Char) (hnumber : isNumberChar c = false)
    (hlower : c.isLower = false) : Apart (c :: cs) := by
  intro d hd
  cases hd
  exact ⟨hnumber, hlower⟩

theorem apart_newline (indent : Nat) (rest : List Char) :
    Apart ((newline indent).toList ++ rest) := by
  rw [newline, String.toList_ofList]
  exact apart_cons _ rfl rfl

/-- A comma and what stands behind it. -/
theorem Gives.comma {cs ds : List Char} {ts us : List Token} (h : Gives cs ts) (h' : Gives ds us) :
    Gives (cs ++ ',' :: ds) (ts ++ .comma :: us) :=
  h.append (fun _ => apart_cons _ rfl rfl) ((scans_begin (c := ',') rfl).gives_append h')

/-- What stands on a line of its own before the mark that closes it all. -/
theorem Gives.close {cs : List Char} {ts : List Token} {c : Char} {t : Token} (h : Gives cs ts)
    (indent : Nat) (hc : begin? c = some ([t], .between)) :
    Gives (cs ++ ((newline indent).toList ++ [c])) (ts ++ [t]) :=
  h.append (fun rest => by rw [List.append_assoc]; exact apart_newline _ _)
    (((scans_newline indent).append (scans_begin hc)).gives)

theorem Gives.line {cs : List Char} {ts : List Token} (h : Gives cs ts) (indent : Nat) :
    Gives ((newline indent).toList ++ cs) ts :=
  (scans_newline indent).gives_append h

theorem Gives.field {cs : List Char} {ts : List Token} (h : Gives cs ts) (indent : Nat)
    (k : String) :
    Gives ((newline indent).toList ++ ((quote k).toList ++ (": ".toList ++ cs)))
      (.text (some k) :: .colon :: ts) := by
  have hblank : Scans .between [' '] [] .between := scans_blanks (by simp [isJsonBlank])
  have hcolon : Scans .between ": ".toList [.colon] .between :=
    (scans_begin (c := ':') rfl).append hblank
  exact ((scans_quote k).gives_append (hcolon.gives_append h)).line indent

mutual

theorem gives_indented (indent : Nat) (d : Datum) (h : Lossless d) :
    Gives (indented indent d).toList (tokens d) := by
  match d with
  | .null => exact gives_null
  | .bool true => exact gives_true
  | .bool false => exact gives_false
  | .int n => exact gives_int h
  | .text s => exact (scans_quote s).gives
  | .list [] =>
    have hshown : "[]".toList = ['[', ']'] := by decide
    rw [indented, hshown]
    exact ((scans_begin (c := '[') rfl).append (scans_begin (c := ']') rfl)).gives
  | .table [] =>
    have hshown : "\x7b\x7d".toList = ['\x7b', '\x7d'] := by decide
    rw [indented, hshown]
    exact ((scans_begin (c := '\x7b') rfl).append (scans_begin (c := '\x7d') rfl)).gives
  | .list (d :: rest) =>
    have hitems := gives_items (indent + 1) (d :: rest) h
    have := (scans_begin (c := '[') rfl).gives_append (hitems.close indent (c := ']') rfl)
    simpa [indented, tokens, String.toList_append] using this
  | .table (field :: rest) =>
    have hfields := gives_fields (indent + 1) (field :: rest) h
    have := (scans_begin (c := '\x7b') rfl).gives_append (hfields.close indent (c := '\x7d') rfl)
    simpa [indented, tokens, String.toList_append] using this

theorem gives_items (indent : Nat) (items : List Datum) (h : ItemsLossless items) :
    Gives (indentedItems indent items).toList (itemTokens items) := by
  match items with
  | [] => exact (scans_nil _).gives
  | [d] =>
    have := (gives_indented indent d h.1).line indent
    simpa [indentedItems, itemTokens, String.toList_append] using this
  | d :: e :: rest =>
    have := ((gives_indented indent d h.1).line indent).comma (gives_items indent (e :: rest) h.2)
    simpa [indentedItems, itemTokens, String.toList_append] using this

theorem gives_fields (indent : Nat) (fields : List (String × Datum)) (h : FieldsLossless fields) :
    Gives (indentedFields indent fields).toList (fieldTokens fields) := by
  match fields with
  | [] => exact (scans_nil _).gives
  | [(k, d)] =>
    have := (gives_indented indent d h.1).field indent k
    simpa [indentedFields, fieldTokens, String.toList_append] using this
  | (k, d) :: e :: rest =>
    have :=
      ((gives_indented indent d h.1).field indent k).comma (gives_fields indent (e :: rest) h.2)
    simpa [indentedFields, fieldTokens, String.toList_append] using this

end

/-- The mark that closes it all, right behind. -/
theorem Gives.shut {cs : List Char} {ts : List Token} {c : Char} {t : Token} (h : Gives cs ts)
    (hc : begin? c = some ([t], .between)) (hnumber : isNumberChar c = false)
    (hlower : c.isLower = false) : Gives (cs ++ [c]) (ts ++ [t]) :=
  h.append (fun rest => apart_cons rest hnumber hlower) (scans_begin hc).gives

theorem Gives.keyed {cs : List Char} {ts : List Token} (h : Gives cs ts) (k : String) :
    Gives ((quote k).toList ++ ':' :: cs) (.text (some k) :: .colon :: ts) :=
  (scans_quote k).gives_append ((scans_begin (c := ':') rfl).gives_append h)

mutual

theorem gives_compact (d : Datum) (h : Lossless d) : Gives (compact d).toList (tokens d) := by
  match d with
  | .null => exact gives_null
  | .bool true => exact gives_true
  | .bool false => exact gives_false
  | .int n => exact gives_int h
  | .text s => exact (scans_quote s).gives
  | .list items =>
    have hshut := (gives_compactItems items h).shut (c := ']') rfl rfl rfl
    have := (scans_begin (c := '[') rfl).gives_append hshut
    simpa [compact, tokens, String.toList_append] using this
  | .table fields =>
    have hshut := (gives_compactFields fields h).shut (c := '\x7d') rfl rfl rfl
    have := (scans_begin (c := '\x7b') rfl).gives_append hshut
    simpa [compact, tokens, String.toList_append] using this

theorem gives_compactItems (items : List Datum) (h : ItemsLossless items) :
    Gives (compactItems items).toList (itemTokens items) := by
  match items with
  | [] => exact (scans_nil _).gives
  | [d] => exact gives_compact d h.1
  | d :: e :: rest =>
    have := (gives_compact d h.1).comma (gives_compactItems (e :: rest) h.2)
    simpa [compactItems, itemTokens, String.toList_append] using this

theorem gives_compactFields (fields : List (String × Datum)) (h : FieldsLossless fields) :
    Gives (compactFields fields).toList (fieldTokens fields) := by
  match fields with
  | [] => exact (scans_nil _).gives
  | [(k, d)] =>
    have := (gives_compact d h.1).keyed k
    simpa [compactFields, fieldTokens, String.toList_append] using this
  | (k, d) :: e :: rest =>
    have := ((gives_compact d h.1).keyed k).comma (gives_compactFields (e :: rest) h.2)
    simpa [compactFields, fieldTokens, String.toList_append] using this

end

/-! ### The reader -/

open Reader (complete)

theorem run?_cons (r : Reader) (t : Token) (ts : List Token) :
    r.run? (t :: ts) = (r.next? t).bind fun r => r.run? ts := rfl

/-- Fields that have been read with their keys. -/
def keyed (fields : List (String × Datum)) : List (Option String × Datum) :=
  fields.map fun p => (some p.1, p.2)

theorem tableOf_keyed (fields : List (String × Datum)) :
    Reader.tableOf (keyed fields) = .table fields := by
  have hall : (keyed fields).mapM (fun p : Option String × Datum => p.1.map fun k => (k, p.2)) =
      some fields := by
    unfold keyed
    induction fields with
    | nil => rfl
    | cons p rest ih => simp [ih]
  rw [Reader.tableOf, hall]

/-- Any value may be the first item. -/
theorem run?_firstItem (d : Datum) (frames : List Frame) (ts : List Token) :
    (Reader.mk frames .firstItem).run? (tokens d ++ ts) =
      (Reader.mk frames .value).run? (tokens d ++ ts) := by
  cases d <;> rfl

mutual

/-- The tokens of a datum complete it. -/
theorem run?_tokens (d : Datum) (h : Lossless d) (frames : List Frame) (ts : List Token) :
    (Reader.mk frames .value).run? (tokens d ++ ts) = (complete d frames).run? ts := by
  match d with
  | .null => rfl
  | .bool b => rfl
  | .int n => rfl
  | .text s => rfl
  | .list [] => rfl
  | .table [] => rfl
  | .list (d :: rest) =>
    have hopen : (Reader.mk frames .value).run? (tokens (.list (d :: rest)) ++ ts) =
        (Reader.mk (.list [] :: frames) .firstItem).run?
          (itemTokens (d :: rest) ++ .closeList :: ts) := by
      simp only [tokens, List.cons_append, List.append_assoc, List.nil_append]
      rfl
    have hfirst : (Reader.mk (.list [] :: frames) .firstItem).run?
          (itemTokens (d :: rest) ++ .closeList :: ts) =
        (Reader.mk (.list [] :: frames) .value).run?
          (itemTokens (d :: rest) ++ .closeList :: ts) := by
      cases rest with
      | nil => exact run?_firstItem d _ _
      | cons e rest =>
        simp only [itemTokens, List.append_assoc]
        exact run?_firstItem d _ _
    rw [hopen, hfirst, run?_items (d :: rest) (by simp) h]
    rfl
  | .table ((k, d) :: rest) =>
    have hopen : (Reader.mk frames .value).run? (tokens (.table ((k, d) :: rest)) ++ ts) =
        (Reader.mk (.table [] none :: frames) .key).run?
          (fieldTokens ((k, d) :: rest) ++ .closeTable :: ts) := by
      cases rest <;>
        simp only [tokens, fieldTokens, List.cons_append, List.append_assoc, List.nil_append] <;>
        rfl
    rw [hopen]
    exact run?_fields ((k, d) :: rest) (by simp) h frames [] none ts

/-- The items of a list, behind those that are read already. -/
theorem run?_items (items : List Datum) (hne : items ≠ []) (h : ItemsLossless items)
    (frames : List Frame) (before : List Datum) (ts : List Token) :
    (Reader.mk (.list before :: frames) .value).run? (itemTokens items ++ .closeList :: ts) =
      (complete (.list (before.reverse ++ items)) frames).run? ts := by
  match items with
  | [d] =>
    rw [itemTokens, run?_tokens d h.1]
    simp [complete, run?_cons, Reader.next?, Reader.closeList?]
  | d :: e :: rest =>
    have hcomma : itemTokens (d :: e :: rest) = tokens d ++ .comma :: itemTokens (e :: rest) := rfl
    rw [hcomma, List.append_assoc, run?_tokens d h.1]
    have := run?_items (e :: rest) (by simp) h.2 frames (d :: before) ts
    simpa [complete, run?_cons, Reader.next?, Reader.comma?] using this

/-- The fields of a table, behind those that are read already. -/
theorem run?_fields (fields : List (String × Datum)) (hne : fields ≠ []) (h : FieldsLossless fields)
    (frames : List Frame) (before : List (String × Datum)) (key : Option String)
    (ts : List Token) :
    (Reader.mk (.table (keyed before) key :: frames) .key).run?
        (fieldTokens fields ++ .closeTable :: ts) =
      (complete (.table (before.reverse ++ fields)) frames).run? ts := by
  match fields with
  | [(k, d)] =>
    have htokens : fieldTokens [(k, d)] = .text (some k) :: .colon :: tokens d := rfl
    have htable : Reader.tableOf ((some k, d) :: keyed before).reverse =
        .table (before.reverse ++ [(k, d)]) := by
      rw [← tableOf_keyed]
      simp [keyed]
    rw [htokens, List.cons_append, List.cons_append, run?_cons]
    change (Reader.mk (.table (keyed before) (some k) :: frames) .value).run?
      (tokens d ++ .closeTable :: ts) = _
    rw [run?_tokens d h.1, complete, run?_cons, ← htable]
    rfl
  | (k, d) :: (k', d') :: rest =>
    have htokens : fieldTokens ((k, d) :: (k', d') :: rest) =
        .text (some k) :: .colon :: (tokens d ++ .comma :: fieldTokens ((k', d') :: rest)) := rfl
    rw [htokens, List.cons_append, List.cons_append, List.append_assoc, run?_cons]
    change (Reader.mk (.table (keyed before) (some k) :: frames) .value).run?
      (tokens d ++ (.comma :: fieldTokens ((k', d') :: rest) ++ .closeTable :: ts)) = _
    rw [run?_tokens d h.1, complete, List.cons_append, run?_cons]
    have := run?_fields ((k', d') :: rest) (by simp) h.2 frames ((k, d) :: before) none ts
    rw [List.reverse_cons, List.append_assoc] at this
    exact this

end

/-- A text is read by the tokens it gives. -/
theorem read?_of_gives {d : Datum} {s : String} (h : Lossless d)
    (hgives : Gives s.toList (tokens d)) : read? s = some d := by
  have hapart : Apart [] := by
    intro c hc
    cases hc
  have hscan : tokens? s = some (tokens d) := by
    have := hgives [] hapart
    simpa [tokens?, scan?, close?] using this
  have hread := run?_tokens d h [] []
  rw [List.append_nil] at hread
  rw [read?, hscan, Option.bind_some]
  exact hread

/-- What has been written over several lines is read again. -/
theorem read?_pretty {d : Datum} (h : Lossless d) : read? (pretty d) = some d :=
  read?_of_gives h (gives_indented 0 d h)

/-- What has been written on one line is read again. -/
theorem read?_compact {d : Datum} (h : Lossless d) : read? (compact d) = some d :=
  read?_of_gives h (gives_compact d h)

end DeviceLab.Json

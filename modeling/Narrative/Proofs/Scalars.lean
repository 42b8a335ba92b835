import Narrative.Json.Scalar

/-!
# Scalars read back

What the writers put down for a text, a number or a word is what the readers make of it. A text ends
at its closing quote, so anything may follow; a number ends where something else begins, so what
follows must not look like more of it (`Delimited`).

* `run_text`: a text is got back from its written form, whatever its characters are;
* `run_number`: an integer is got back from its decimal digits if 64 bits hold it;
* **`scalar_reads`**: so is every scalar, after any blanks.
-/

namespace Narrative.Json

/-- A value that is no list and no object. Its number is an integer that 64 bits hold, signed or
not. -/
inductive Value.Scalar : Value → Prop
  | null : Scalar .null
  | bool {b : Bool} : Scalar (.bool b)
  | int {n : Int} (low : -0x8000000000000000 ≤ n) (high : n < UInt64.size) : Scalar (.num (.int n))
  | str {s : String} : Scalar (.str s)

/-- The text of a scalar, which is the same in every layout. -/
def Value.scalarChars : Value → List Char
  | .null => "null".toList
  | .bool b => truth b
  | .num n => n.chars
  | .str s => quoted s
  | .arr _ | .obj _ => []

namespace Reader

variable {α : Type}

/-! ## Blanks and ends -/

/-- Nothing but blanks. -/
def Blanks (text : List Char) : Prop := ∀ c ∈ text, isGap c = true

/-- What may follow a value or a key: nothing, a blank, a comma, a colon or the end of a group. -/
def Delimited (rest : List Char) : Prop :=
  ∀ c ∈ rest.head?, isGap c = true ∨ c ∈ [',', ':', ']', '\x7d']

/-- The reader gets a value from a text, whatever blanks stand before it and whatever follows. -/
def Reads (reader : Reader α) (text : List Char) (a : α) : Prop :=
  ∀ lead rest, Blanks lead → Delimited rest →
    reader.run (lead ++ (text ++ rest)) = .done a rest

theorem blanks_nil : Blanks [] := by simp [Blanks]

theorem delimited_colon (rest : List Char) : Delimited (':' :: rest) := by
  simp [Delimited]

theorem Reads.run {reader : Reader α} {text rest : List Char} {a : α} (h : reader.Reads text a)
    (ends : Delimited rest) : reader.run (text ++ rest) = .done a rest :=
  h [] rest blanks_nil ends

/-- What succeeds is followed by what comes next. -/
theorem run_bind_done {β : Type} {reader : Reader α} {next : α → Reader β}
    {text rest : List Char} {a : α} (h : reader.run text = .done a rest) :
    (reader >>= next).run text = (next a).run rest := by
  rw [run_bind, h]

theorem run_lookPast_append {lead : List Char} (blanks : Blanks lead) (text : List Char) :
    lookPast.run (lead ++ text) = lookPast.run text := by
  rw [run_lookPast, run_lookPast, List.dropWhile_append_of_pos blanks]

/-- What starts by passing over blanks does not notice those in front. -/
theorem run_bind_lookPast {lead : List Char} (blanks : Blanks lead)
    (next : Option Char → Reader α) (text : List Char) :
    (lookPast >>= next).run (lead ++ text) = (lookPast >>= next).run text := by
  rw [run_bind, run_bind, run_lookPast_append blanks]

theorem run_lookPast_cons {c : Char} (h : isGap c = false) (cs : List Char) :
    lookPast.run (c :: cs) = .done (some c) (c :: cs) := by
  rw [run_lookPast, List.dropWhile_cons_of_neg (by simp [h])]
  rfl

/-- What follows a value is no part of a number. -/
theorem Delimited.not_number {rest : List Char} (h : Delimited rest) {c : Char}
    (hc : rest.head? = some c) : isDigit c = false ∧ c ≠ '.' ∧ isExponentMark c = false := by
  have hmem := h c hc
  simp only [isGap, Bool.decide_or, Bool.or_eq_true, decide_eq_true_eq, List.mem_cons,
    List.not_mem_nil, or_false] at hmem
  rcases hmem with (rfl | rfl | rfl | rfl) | rfl | rfl | rfl | rfl
  all_goals decide

/-! ## Texts -/

theorem hexValue?_hexDigit : ∀ n < 16, hexValue? (hexDigit n) = some n := by decide

/-- Four hexadecimal digits are taken for a code unit. -/
theorem run_codeUnit {a b c d : Char} {n : Nat} (h : hexNumber? a b c d = some n)
    (rest : List Char) : codeUnit.run (a :: b :: c :: d :: rest) = .done n rest := by
  have hbytes : ¬ bytes ((a :: b :: c :: d :: rest).take 4) < 4 := by
    have ha := a.utf8Size_pos
    have hb := b.utf8Size_pos
    have hc := c.utf8Size_pos
    have hd := d.utf8Size_pos
    simp only [List.take_succ_cons, List.take_zero, bytes]
    omega
  unfold codeUnit
  simp only [if_neg hbytes, h]

/-- A control character is read from its two hexadecimal digits. -/
theorem run_escape_control {c : Char} (control : c.toNat < 0x20) (rest : List Char) :
    escape.run
      ('u' :: '0' :: '0' :: hexDigit (c.toNat / 16) :: hexDigit (c.toNat % 16) :: rest) =
        .done c rest := by
  have hnumber : hexNumber? '0' '0' (hexDigit (c.toNat / 16)) (hexDigit (c.toNat % 16)) =
      some c.toNat := by
    have hhigh := hexValue?_hexDigit (c.toNat / 16) (by omega)
    have hlow := hexValue?_hexDigit (c.toNat % 16) (Nat.mod_lt _ (by decide))
    have hzero : hexValue? '0' = some 0 := by decide
    have hsum : ((0 * 16 + 0) * 16 + c.toNat / 16) * 16 + c.toNat % 16 = c.toNat := by omega
    simp only [hexNumber?, hhigh, hlow, hzero, Option.bind_eq_bind, Option.bind_some,
      Option.pure_def, hsum]
  have hunit := run_codeUnit hnumber rest
  -- it is no half of a pair
  have hlow : isLow c.toNat = false := by
    simp only [isLow, Bool.and_eq_false_iff, decide_eq_false_iff_not]
    omega
  have hhigh : isHigh c.toNat = false := by
    simp only [isHigh, Bool.and_eq_false_iff, decide_eq_false_iff_not]
    omega
  have hletter : escapeLetter? 'u' = none := by decide
  simp [escape, unicodeEscape, hunit, hlow, hhigh, hletter]

/-- A character stands for itself, or an escape is read as it. -/
theorem escaped_cases (c : Char) :
    (escaped c = [c] ∧ c ≠ '"' ∧ c ≠ '\\' ∧ ¬ c.toNat < 0x20) ∨
      ∃ letters, escaped c = '\\' :: letters ∧
        ∀ rest, escape.run (letters ++ rest) = .done c rest := by
  by_cases hshort : c ∈ ['"', '\\', '\x08', '\x0c', '\n', '\r', '\t']
  · simp only [List.mem_cons, List.not_mem_nil, or_false] at hshort
    rcases hshort with rfl | rfl | rfl | rfl | rfl | rfl | rfl
    all_goals exact Or.inr ⟨_, rfl, fun _ => rfl⟩
  · simp only [List.mem_cons, List.not_mem_nil, or_false, not_or] at hshort
    obtain ⟨h₁, h₂, h₃, h₄, h₅, h₆, h₇⟩ := hshort
    unfold escaped
    rw [if_neg h₁, if_neg h₂, if_neg h₃, if_neg h₄, if_neg h₅, if_neg h₆, if_neg h₇]
    by_cases control : c.toNat < 0x20
    · rw [if_pos control]
      exact Or.inr ⟨_, rfl, run_escape_control control⟩
    · rw [if_neg control]
      exact Or.inl ⟨rfl, h₁, h₂, control⟩

/-- An escape in a text stands for the character it is read as. -/
theorem textFrom_of_escape {before rest rest' : List Char} {c : Char}
    (h : escape.run rest = .done c rest') :
    textFrom before ('\\' :: rest) = textFrom (c :: before) rest' := by
  rw [textFrom, if_neg (by decide), if_pos rfl]
  split
  · rename_i c' rest'' h'
    obtain ⟨rfl, rfl⟩ := Reading.done.inj (h.symm.trans h')
    rfl
  · rename_i h'
    exact absurd (h.symm.trans h') (by simp)
  · rename_i h'
    exact absurd (h.symm.trans h') (by simp)

/-- The characters of a text are got back from their escapes. -/
theorem textFrom_escaped (before cs rest : List Char) :
    textFrom before (cs.flatMap escaped ++ '"' :: rest) =
      .done (String.ofList (before.reverse ++ cs)) rest := by
  induction cs generalizing before with
  | nil =>
    rw [List.flatMap_nil, List.nil_append, textFrom, if_pos rfl, List.append_nil]
  | cons c cs ih =>
    rw [List.flatMap_cons, List.append_assoc]
    have hreverse : before.reverse ++ c :: cs = (c :: before).reverse ++ cs := by simp
    rw [hreverse, ← ih]
    rcases escaped_cases c with ⟨hself, hquote, hbackslash, hcontrol⟩ | ⟨letters, hletters, hescape⟩
    · rw [hself, List.cons_append, List.nil_append, textFrom, if_neg hquote, if_neg hbackslash,
        if_neg hcontrol]
    · rw [hletters, List.cons_append]
      exact textFrom_of_escape (hescape _)

/-- **Texts are read back**, from behind their opening quote. -/
theorem run_text (s : String) (rest : List Char) :
    text.run (s.toList.flatMap escaped ++ '"' :: rest) = .done s rest := by
  refine (textFrom_escaped [] s.toList rest).trans ?_
  rw [List.reverse_nil, List.nil_append, String.ofList_toList]

/-! ## Numbers -/

theorem isDigit_of_mem_toDigits {n : Nat} {c : Char} (h : c ∈ Nat.toDigits 10 n) :
    isDigit c = true := by
  have hdigit : c.isDigit = true := Nat.isDigit_of_mem_toDigits (by decide) (Nat.le_refl 10) h
  simp only [Char.isDigit, Bool.and_eq_true, decide_eq_true_eq] at hdigit
  simp only [isDigit, Bool.and_eq_true, decide_eq_true_eq]
  exact hdigit

/-- Only zero is written with a zero in front. -/
theorem head?_toDigits (n : Nat) : (Nat.toDigits 10 n).head? = some '0' ↔ n = 0 := by
  induction n using Nat.strongRecOn with
  | ind n ih =>
    rw [Nat.toDigits_eq_if (by decide)]
    split
    · rename_i h
      have hsmall : ∀ n < 10, [Nat.digitChar n].head? = some '0' ↔ n = 0 := by decide
      exact hsmall n h
    · rename_i h
      have hhead : (Nat.toDigits 10 (n / 10)).head? ≠ none := by simp [Nat.toDigits_ne_nil]
      rw [List.head?_append, Option.or_of_isSome (Option.isSome_iff_ne_none.mpr hhead),
        ih (n / 10) (by omega)]
      omega

theorem le_ofDigitChars (cs : List Char) (n : Nat) : n ≤ Nat.ofDigitChars 10 cs n := by
  induction cs generalizing n with
  | nil => exact Nat.le_refl n
  | cons c cs ih =>
    rw [Nat.ofDigitChars_cons]
    exact Nat.le_trans (by omega) (ih _)

/-- All digits are collected if 64 bits hold the number. -/
theorem absorb_digits (cs : List Char) {n : Nat} (h : Nat.ofDigitChars 10 cs n < UInt64.size) :
    absorb n (cs.map fun c => c.toNat - 48) = (Nat.ofDigitChars 10 cs n, cs.length) := by
  induction cs generalizing n with
  | nil => rfl
  | cons c cs ih =>
    have hcomm : 10 * n + (c.toNat - '0'.toNat) = n * 10 + (c.toNat - 48) := by
      rw [Nat.mul_comm]
      rfl
    rw [Nat.ofDigitChars_cons, hcomm] at h ⊢
    have hfits := Nat.lt_of_le_of_lt (le_ofDigitChars cs _) h
    rw [List.map_cons, absorb, if_pos hfits, ih h]
    rfl

/-- All digits are taken, and what follows is left. -/
theorem run_digits {cs rest : List Char} (digital : ∀ c ∈ cs, isDigit c = true)
    (ends : Delimited rest) :
    digits.run (cs ++ rest) = .done (cs.map fun c => c.toNat - 48) rest := by
  have hrest : rest.takeWhile isDigit = [] ∧ rest.dropWhile isDigit = rest := by
    cases rest with
    | nil => exact ⟨rfl, rfl⟩
    | cons c rest =>
      have hc : ¬ isDigit c = true := by simp [(ends.not_number rfl).1]
      exact ⟨List.takeWhile_cons_of_neg hc, List.dropWhile_cons_of_neg hc⟩
  unfold digits
  simp only [List.takeWhile_append_of_pos digital, List.dropWhile_append_of_pos digital, hrest.1,
    hrest.2, List.append_nil]

/-- The integer that digits stand for behind a sign. -/
def signedInt : Bool → Nat → Int
  | false, n => n
  | true, n => -n

/-- Whether 64 bits hold an integer. Behind a sign they are signed, and there is no zero. -/
def Holds : Bool → Nat → Prop
  | false, n => n < UInt64.size
  | true, n => 0 < n ∧ n ≤ 0x8000000000000000

theorem Holds.lt {negative : Bool} {n : Nat} (h : Holds negative n) : n < UInt64.size := by
  cases negative with
  | false => exact h
  | true => exact Nat.lt_of_le_of_lt h.2 (by decide)

/-- Integer digits that nothing follows make an integer. -/
theorem run_afterDigits {negative : Bool} {n : Nat} {whole : List Nat} {rest : List Char}
    (holds : Holds negative n) (collected : absorb 0 whole = (n, whole.length))
    (ends : Delimited rest) :
    (afterDigits negative whole).run rest = .done (.int (signedInt negative n)) rest := by
  have hplain : ∀ start, (afterDigits.plain negative whole n whole.length start).run rest =
      .done (.int (signedInt negative n)) rest := by
    intro start
    unfold afterDigits.plain
    rw [if_neg (Nat.lt_irrefl _)]
    cases negative with
    | false => rfl
    | true =>
      have hfits : 0 < n ∧ n ≤ 0x8000000000000000 := holds
      rw [if_pos rfl, if_pos hfits]
      rfl
  unfold afterDigits
  simp only [collected, run_bind, run_look]
  cases rest with
  | nil => exact hplain _
  | cons c rest =>
    obtain ⟨-, hdot, hmark⟩ := ends.not_number rfl
    simp only [List.head?_cons, hmark]
    exact hplain _

/-- **Integers are read back**, from behind their sign, if 64 bits hold them. -/
theorem run_number {negative : Bool} {n : Nat} {rest : List Char} (holds : Holds negative n)
    (ends : Delimited rest) :
    (number negative).run (Nat.toDigits 10 n ++ rest) =
      .done (.int (signedInt negative n)) rest := by
  have hvalue : Nat.ofDigitChars 10 (Nat.toDigits 10 n) 0 = n :=
    Nat.ofDigitChars_toDigits (by decide) (Nat.le_refl 10)
  have hcollected := absorb_digits (Nat.toDigits 10 n) (hvalue.symm ▸ holds.lt)
  rw [hvalue] at hcollected
  have hdigital : ∀ c ∈ Nat.toDigits 10 n, isDigit c = true := fun _ => isDigit_of_mem_toDigits
  have hdigits := run_digits hdigital ends
  unfold number
  simp only [run_bind, run_look]
  by_cases hzero : n = 0
  · subst hzero
    have hcollected : absorb 0 [0] = (0, [0].length) := by decide
    have hafter := run_afterDigits holds hcollected ends
    have hwritten : Nat.toDigits 10 0 = ['0'] := by decide
    rw [hwritten]
    cases rest with
    | nil => exact hafter
    | cons c rest =>
      have hc := (ends.not_number rfl).1
      simpa [hc] using hafter
  · have hlead := mt (head?_toDigits n).mp hzero
    cases hwritten : Nat.toDigits 10 n with
    | nil => exact absurd hwritten Nat.toDigits_ne_nil
    | cons c cs =>
      rw [hwritten] at hlead hdigits hcollected hdigital
      have hc : isDigit c = true := hdigital c List.mem_cons_self
      have hafter := run_afterDigits holds (hcollected.trans (by simp)) ends
      simp only [List.cons_append, List.head?_cons, Option.some.injEq] at hlead hdigits ⊢
      simp only [hc, if_pos, run_bind, hdigits]
      exact hafter

/-! ## Scalars -/

theorem ne_of_isDigit {c d : Char} (hc : isDigit c = true) (hd : isDigit d = false) : c ≠ d := by
  rintro rfl
  exact absurd (hc.symm.trans hd) (by decide)

end Reader

open Reader

/-- Whether the text of a value can start with a character. -/
def Value.startsWith (c : Char) : Value → Bool
  | .null => c = 'n'
  | .bool b => c = if b then 't' else 'f'
  | .num _ => c = '-' ∨ isDigit c
  | .str _ => c = '"'
  | .arr _ => c = '['
  | .obj _ => c = '\x7b'

/-- No value starts with a blank, or with what may follow a value. -/
theorem Value.startsWith_ne {v : Value} {c : Char} (h : v.startsWith c = true) :
    isGap c = false ∧ c ∉ [',', ']', '\x7d'] := by
  cases v with
  | num n =>
    simp only [startsWith, Bool.decide_or, Bool.or_eq_true, decide_eq_true_eq] at h
    rcases h with rfl | hc
    · decide
    · refine ⟨?_, ?_⟩
      · simp only [isGap, decide_eq_false_iff_not, not_or]
        exact ⟨ne_of_isDigit hc rfl, ne_of_isDigit hc rfl, ne_of_isDigit hc rfl,
          ne_of_isDigit hc rfl⟩
      · simp only [List.mem_cons, List.not_mem_nil, or_false, not_or]
        exact ⟨ne_of_isDigit hc rfl, ne_of_isDigit hc rfl, ne_of_isDigit hc rfl⟩
  | bool b =>
    obtain rfl := of_decide_eq_true h
    cases b <;> decide
  | _ =>
    obtain rfl := of_decide_eq_true h
    decide

/-- Nothing but `null` starts like it. -/
theorem Value.startsWith_ne_n {v : Value} {c : Char} (h : v.startsWith c = true)
    (present : v ≠ .null) : c ≠ 'n' := by
  rintro rfl
  cases v with
  | null => exact present rfl
  | bool b => cases b <;> exact absurd h (by decide)
  | _ => exact absurd h (by simp [startsWith, isDigit])

/-- The first character of a scalar. -/
theorem Value.Scalar.exists_cons {v : Value} (h : v.Scalar) :
    ∃ c cs, v.scalarChars = c :: cs ∧ v.startsWith c = true := by
  cases h with
  | null => exact ⟨_, _, rfl, rfl⟩
  | @bool b => cases b <;> exact ⟨_, _, rfl, rfl⟩
  | @int n low high =>
    by_cases hneg : n < 0
    · exact ⟨_, _, if_pos hneg, by simp [startsWith]⟩
    · cases hdigits : Nat.toDigits 10 n.natAbs with
      | nil => exact absurd hdigits Nat.toDigits_ne_nil
      | cons c cs =>
        have hc : isDigit c = true := isDigit_of_mem_toDigits (hdigits ▸ List.mem_cons_self)
        exact ⟨c, cs, (if_neg hneg).trans hdigits, by simp [startsWith, hc]⟩
  | str => exact ⟨_, _, rfl, rfl⟩

/-- Groups start otherwise. -/
theorem Value.Scalar.startsWith_ne {v : Value} {c : Char} (h : v.Scalar)
    (starts : v.startsWith c = true) : c ≠ '[' ∧ c ≠ '\x7b' := by
  constructor <;> rintro rfl
  all_goals
    cases h with
    | @bool b => cases b <;> exact absurd starts (by decide)
    | _ => simp [startsWith, isDigit] at starts

namespace Reader

/-- A number that is not negative is told by its first digit. -/
theorem run_scalar_digits {n : Nat} {rest : List Char} (holds : Holds false n)
    (ends : Delimited rest) :
    scalar.run (Nat.toDigits 10 n ++ rest) = .done (.num (.int n)) rest := by
  have hnumber := run_number holds ends
  cases hwritten : Nat.toDigits 10 n with
  | nil => exact absurd hwritten Nat.toDigits_ne_nil
  | cons c cs =>
    have hc : isDigit c = true := isDigit_of_mem_toDigits (hwritten ▸ List.mem_cons_self)
    have hgap : isGap c = false :=
      (Value.startsWith_ne (v := .num (.int n)) (by simp [Value.startsWith, hc])).1
    have hn : c ≠ 'n' := ne_of_isDigit hc rfl
    have ht : c ≠ 't' := ne_of_isDigit hc rfl
    have hf : c ≠ 'f' := ne_of_isDigit hc rfl
    have hminus : c ≠ '-' := ne_of_isDigit hc rfl
    have hquote : c ≠ '"' := ne_of_isDigit hc rfl
    rw [hwritten, List.cons_append] at hnumber
    unfold scalar
    simp only [List.cons_append, run_bind, run_lookPast_cons hgap, hc, if_pos, hnumber]
    rfl

/-- **Scalars are read back.** -/
theorem scalar_reads {v : Value} (h : v.Scalar) : scalar.Reads v.scalarChars v := by
  intro lead rest blanks ends
  have hlead : ∀ text, scalar.run (lead ++ text) = scalar.run text := run_bind_lookPast blanks _
  rw [hlead]
  cases h with
  | null => rfl
  | @bool b => cases b <;> rfl
  | @int n low high =>
    by_cases hneg : n < 0
    · have hchars : (Value.num (.int n)).scalarChars = '-' :: Nat.toDigits 10 n.natAbs :=
        if_pos hneg
      have hvalue : signedInt true n.natAbs = n := by
        change -(n.natAbs : Int) = n
        omega
      have holds : Holds true n.natAbs := ⟨by omega, by omega⟩
      have hnumber := run_number holds ends
      rw [hvalue] at hnumber
      unfold scalar
      rw [hchars, List.cons_append, run_bind, run_lookPast_cons rfl]
      simp only [run_bind, run_skip, List.tail_cons, hnumber, run_pure]
    · have hchars : (Value.num (.int n)).scalarChars = Nat.toDigits 10 n.natAbs := if_neg hneg
      have hvalue : (n.natAbs : Int) = n := Int.natAbs_of_nonneg (by omega)
      have holds : Holds false n.natAbs := by
        change n.natAbs < UInt64.size
        omega
      have hnumber := run_scalar_digits holds ends
      rw [hvalue] at hnumber
      rw [hchars, hnumber]
  | @str s =>
    have htext := run_text s rest
    unfold scalar
    rw [Value.scalarChars, quoted, List.cons_append, run_bind, run_lookPast_cons rfl]
    simp only [run_bind, run_skip, List.tail_cons, List.append_assoc, List.singleton_append, htext,
      run_pure]

end Reader

end Narrative.Json

import Sdm.Common.MessageDefinition
import Sdm.Lib.Decimal

/-!
The tokens of a message definition that is written piece by piece.

A piece reads as some tokens when the scanner takes these tokens from it, whatever follows. The
pieces that do are the words of a definition with the character behind them, a text between
quotation marks, and a number with the colon behind it.

* `token_eq`: the longest match, and the first rule that has it.
* `Reads.append`, `Reads.cons`: pieces one behind the other.
* `reads_string`, `reads_int`, `reads_float`: the pieces that are not fixed.
-/

namespace Sdm.MessageDefinition

open Lib

/-! ### Pieces -/

/-- All tokens of an input. -/
def tokens (input : List UInt8) : List Token := scan input.length input

theorem tokens_nil : tokens [] = [] := rfl

/-- The scanner goes on behind a match. -/
theorem tokens_cons (b : UInt8) (rest : List UInt8) :
    tokens (b :: rest) = (token (b :: rest)).toList ++
      tokens ((b :: rest).drop (longest (b :: rest))) := by
  have pos := longest_pos b rest
  have less : ((b :: rest).drop (longest (b :: rest))).length ≤ rest.length := by
    simp only [List.length_drop, List.length_cons]
    omega
  rw [tokens, List.length_cons, scan, scan_of_le less, tokens]

/-- The piece is read as these tokens, whatever follows. -/
def Reads (piece : List UInt8) (ts : List Token) : Prop :=
  ∀ rest, tokens (piece ++ rest) = ts ++ tokens rest

theorem reads_nil : Reads [] [] := fun _ => rfl

variable {p q : List UInt8} {ts us : List Token}

theorem Reads.append (first : Reads p ts) (second : Reads q us) : Reads (p ++ q) (ts ++ us) := by
  intro rest
  rw [List.append_assoc, first, second, List.append_assoc]

/-- A match before what follows it. -/
theorem Reads.cons (second : Reads q us) (p : List UInt8) (t : Option Token) (some : p ≠ [])
    (whole : ∀ rest, longest (p ++ (q ++ rest)) = p.length)
    (here : ∀ rest, token (p ++ (q ++ rest)) = t) : Reads (p ++ q) (t.toList ++ us) := by
  intro rest
  obtain ⟨b, p, rfl⟩ := List.exists_cons_of_ne_nil some
  have size := whole rest
  have token := here rest
  rw [List.append_assoc]
  rw [List.cons_append] at size token ⊢
  rw [tokens_cons, size, token, ← List.cons_append, List.drop_left, second, List.append_assoc]

/-- A match, whatever follows it. -/
theorem reads_of_longest (p : List UInt8) (t : Option Token) (some : p ≠ [])
    (whole : ∀ rest, longest (p ++ rest) = p.length) (here : ∀ rest, token (p ++ rest) = t) :
    Reads p t.toList := by
  have reads := reads_nil.cons p t some whole here
  rwa [List.append_nil, List.append_nil] at reads

/-! ### The longest match -/

/-- **The longest match**: the rules before match less, and those behind not more. -/
theorem token_eq {front back : List Rule} {rule : Rule} {input : List UInt8} {n : Nat}
    (split : rules = front ++ rule :: back) (before : ∀ r ∈ front, r.pattern.matched input < n)
    (here : rule.pattern.matched input = n) (behind : ∀ r ∈ back, r.pattern.matched input ≤ n) :
    longest input = n ∧ token input = rule.action (input.take n) := by
  have size : longest input = n := by
    refine le_antisymm ?_ (here ▸ le_longest rule input ?_)
    · refine List.max_le_of_forall_le _ _ fun m mem => ?_
      obtain ⟨r, there, rfl⟩ := List.mem_map.mp mem
      rw [split, List.mem_append, List.mem_cons] at there
      rcases there with there | rfl | there
      · exact (before r there).le
      · exact here.le
      · exact behind r there
    · rw [split]
      exact List.mem_append_right _ List.mem_cons_self
  refine ⟨size, ?_⟩
  have none : front.find? (·.pattern.matched input = n) = none :=
    List.find?_eq_none.mpr fun r mem => by simpa using (before r mem).ne
  rw [token, size, split, List.find?_append, none, Option.none_or,
    List.find?_cons_of_pos (by simpa using here), Option.bind_some]

/-- What rules match whose matches are these. -/
theorem forall_of_map {l : List Rule} {input : List UInt8} {ms : List Nat} {P : Nat → Prop}
    (matched : l.map (·.pattern.matched input) = ms) (all : ∀ m ∈ ms, P m) :
    ∀ r ∈ l, P (r.pattern.matched input) := by
  intro r mem
  exact all _ (matched ▸ List.mem_map_of_mem mem)

/-! ### Blanks, texts and numbers -/

/-- A row of blanks is nothing. -/
theorem tokens_blanks (rest : List UInt8) :
    tokens (32 :: rest) = tokens (rest.dropWhile (· = 32)) := by
  have front : (rules.take 29).map (·.pattern.matched (32 :: rest)) = List.replicate 29 0 := rfl
  have back : (rules.drop 30).map (·.pattern.matched (32 :: rest)) = [1] := rfl
  have split : rules = rules.take 29 ++ ⟨.blanks, fun _ => none⟩ :: rules.drop 30 := rfl
  obtain ⟨row, gap⟩ : ∃ row, row = (32 :: rest).takeWhile (· = 32) := ⟨_, rfl⟩
  have whole : 32 :: rest = row ++ rest.dropWhile (· = 32) := by
    rw [gap, ← List.takeWhile_append_dropWhile (p := (· = 32)) (l := 32 :: rest)]
    simp
  have pos : 0 < row.length := by
    rw [gap]
    simp
  have here : Pattern.blanks.matched (32 :: rest) = row.length := by
    rw [Pattern.matched, if_pos (Or.inl rfl), ← gap]
  have zero : ∀ m ∈ List.replicate 29 0, m < row.length := fun m mem => by
    rwa [List.eq_of_mem_replicate mem]
  have one : ∀ m ∈ [1], m ≤ row.length := fun m mem => by
    rwa [List.mem_singleton.mp mem]
  obtain ⟨size, none⟩ := token_eq split (forall_of_map front zero) here (forall_of_map back one)
  rw [tokens_cons, size, none, whole, List.drop_left]
  rfl

/-- A blank more. -/
theorem Reads.blank (reads : Reads (32 :: q) us) : Reads (32 :: 32 :: q) us := by
  intro rest
  rw [← reads, List.cons_append, List.cons_append, tokens_blanks, tokens_blanks]
  rfl

/-- A text between quotation marks. -/
theorem reads_string {s : CString} (plain : 34 ∉ s.bytes) :
    Reads (34 :: s.bytes ++ [34]) [.STRING s] := by
  have found (rest : List UInt8) : longest (34 :: s.bytes ++ [34] ++ rest) = s.length + 2 ∧
      token (34 :: s.bytes ++ [34] ++ rest) = some (.STRING s) := by
    obtain ⟨input, whole⟩ : ∃ input, input = s.bytes ++ 34 :: rest := ⟨_, rfl⟩
    have front : (rules.take 26).map (·.pattern.matched (34 :: input)) = List.replicate 26 0 := rfl
    have back : (rules.drop 27).map (·.pattern.matched (34 :: input)) = [0, 0, 0, 1] := rfl
    have split : rules = rules.take 26 ++
      ⟨.string, fun yytext => some (.STRING (.ofBytes (yytext.drop 1).dropLast))⟩ ::
        rules.drop 27 := rfl
    have ends : input.takeWhile (· ≠ 34) = s.bytes := by
      have inside : ∀ b ∈ s.bytes, decide (b ≠ 34) = true := fun b mem =>
        decide_eq_true fun quote => plain (quote ▸ mem)
      rw [whole, List.takeWhile_append_of_pos inside]
      simp
    have here : Pattern.string.matched (34 :: input) = s.length + 2 := by
      simp only [Pattern.matched, ends]
      rw [if_pos]
      · rfl
      · rw [whole, List.length_append, List.length_cons]
        omega
    have zero : ∀ m ∈ List.replicate 26 0, m < s.length + 2 := fun m mem => by
      rw [List.eq_of_mem_replicate mem]
      omega
    have one : ∀ m ∈ [0, 0, 0, 1], m ≤ s.length + 2 := by simp
    obtain ⟨size, token⟩ := token_eq split (forall_of_map front zero) here (forall_of_map back one)
    have same : 34 :: s.bytes ++ [34] ++ rest = 34 :: input := by
      rw [whole]
      simp
    rw [same]
    refine ⟨size, token.trans ?_⟩
    have taken : (34 :: input).take (s.length + 2) = 34 :: s.bytes ++ [34] := by
      rw [← same]
      exact List.take_left' (by simp [CString.length])
    have inner : ((34 :: s.bytes ++ [34]).drop 1).dropLast = s.bytes := by simp
    rw [taken]
    have same := (congrArg CString.ofBytes inner).trans (CString.ofBytes_bytes s)
    exact congrArg (fun text => some (Token.STRING text)) same
  exact reads_of_longest _ (some (.STRING s)) (List.cons_ne_nil _ _)
    (fun rest => (found rest).1.trans (by simp [CString.length])) fun rest => (found rest).2

/-! #### Numbers -/

/-- The characters with which a number begins. -/
def Numeral (b : UInt8) : Prop := b = 46 ∨ 48 ≤ b ∧ b ≤ 57

instance (b : UInt8) : Decidable (Numeral b) := inferInstanceAs (Decidable (_ ∨ _))

/-- No word begins with a number. -/
theorem words_of_numeral {b : UInt8} (numeral : Numeral b) (rest : List UInt8) :
    (rules.take 27).map (·.pattern.matched (b :: rest)) = List.replicate 27 0 := by
  rcases numeral with rfl | ⟨low, high⟩
  · rfl
  · have low : 48 ≤ b.toNat := UInt8.le_iff_toNat_le.mp low
    have high : b.toNat ≤ 57 := UInt8.le_iff_toNat_le.mp high
    rw [← UInt8.ofNat_toNat (x := b)]
    generalize b.toNat = n at low high
    interval_cases n <;> rfl

/-- The digits before something that is no digit. -/
theorem digits_append {ds : List UInt8} (all : ∀ b ∈ ds, 48 ≤ b ∧ b ≤ 57) {c : UInt8}
    (other : ¬ (48 ≤ c ∧ c ≤ 57)) (rest : List UInt8) : digits (ds ++ c :: rest) = ds.length := by
  have taken : ∀ b ∈ ds, decide (48 ≤ b ∧ b ≤ 57) = true := fun b mem => decide_eq_true (all b mem)
  rw [digits, List.takeWhile_append_of_pos taken, List.takeWhile_cons_of_neg (by simpa using other),
    List.append_nil]

/-- Some digits. -/
structure Digits (ds : List UInt8) : Prop where
  some : ds ≠ []
  all : ∀ b ∈ ds, 48 ≤ b ∧ b ≤ 57

/-- No blank and no word begins with a digit. -/
theorem matched_of_numeral {b : UInt8} (numeral : Numeral b) (rest : List UInt8) :
    Pattern.blanks.matched (b :: rest) = 0 ∧ Pattern.other.matched (b :: rest) = 1 := by
  have notBlank : ¬ (b = 32 ∨ b = 9 ∨ b = 10) := by
    rintro (rfl | rfl | rfl) <;> exact absurd numeral (by decide)
  rw [not_or, not_or] at notBlank
  obtain ⟨space, tab, newline⟩ := notBlank
  simp [Pattern.matched, space, tab, newline]

theorem reads_colon : Reads [58] [.COLON_SY] :=
  reads_of_longest [58] (some .COLON_SY) (List.cons_ne_nil _ _) (fun _ => rfl) fun _ => rfl

-- Decided along the list: a quantifier over bytes would go through all 256 of them.
instance (ds : List UInt8) : Decidable (Digits ds) :=
  decidable_of_iff (ds ≠ [] ∧ ds.all fun b => 48 ≤ b ∧ b ≤ 57)
    ⟨fun number => ⟨number.1, by simpa using number.2⟩,
      fun number => ⟨number.some, by simpa using number.all⟩⟩

theorem digits_digitBytes (n : Nat) : Digits (digitBytes n) := by
  obtain ⟨b, rest, eq, -⟩ := exists_digitBytes n
  exact ⟨eq ▸ List.cons_ne_nil b rest, fun _ => digit_of_mem_digitBytes⟩

/-- The digits of an `int` with a colon behind them. -/
theorem reads_int {ds : List UInt8} (number : Digits ds) (fits : digitsValue ds ≤ 2147483647) :
    Reads (ds ++ [58]) [.INT (digitsValue ds), .COLON_SY] := by
  have found (rest : List UInt8) : longest (ds ++ ([58] ++ rest)) = ds.length ∧
      token (ds ++ ([58] ++ rest)) = some (.INT (digitsValue ds)) := by
    obtain ⟨b, others, same⟩ := List.exists_cons_of_ne_nil number.some
    have numeral : Numeral b := .inr (number.all b (same ▸ List.mem_cons_self))
    obtain ⟨input, whole⟩ : ∃ input, input = others ++ ([58] ++ rest) := ⟨_, rfl⟩
    have cons : ds ++ ([58] ++ rest) = b :: input := by rw [whole, same, List.cons_append]
    have count : digits (ds ++ ([58] ++ rest)) = ds.length :=
      digits_append number.all (by decide) rest
    have float : Pattern.float.matched (ds ++ ([58] ++ rest)) = 0 := by
      simp only [Pattern.matched, count, List.drop_left]
      rfl
    have words := words_of_numeral numeral input
    obtain ⟨blanks, other⟩ := matched_of_numeral numeral input
    rw [← cons] at words blanks other
    have pos : 0 < ds.length := List.length_pos_iff.mpr number.some
    have front : (rules.take 28).map (·.pattern.matched (ds ++ ([58] ++ rest))) =
        List.replicate 27 0 ++ [0] := by
      rw [← words, ← float]
      rfl
    have back : (rules.drop 29).map (·.pattern.matched (ds ++ ([58] ++ rest))) = [0, 1] := by
      rw [← blanks, ← other]
      rfl
    have split : rules = rules.take 28 ++
      ⟨.int, fun yytext => some (.INT (min (digitsValue yytext) 2147483647))⟩ :: rules.drop 29 :=
        rfl
    have zero : ∀ m ∈ List.replicate 27 0 ++ [0], m < ds.length := by simp [pos]
    have one : ∀ m ∈ [0, 1], m ≤ ds.length := by simp; omega
    obtain ⟨size, token⟩ := token_eq split (forall_of_map front zero) count
      (forall_of_map back one)
    rw [List.take_left] at token
    exact ⟨size, token.trans (congrArg (fun n => some (Token.INT n)) (min_eq_left fits))⟩
  exact reads_colon.cons ds (some (.INT (digitsValue ds))) number.some
    (fun rest => (found rest).1) fun rest => (found rest).2

/-- The text of a real number. -/
def Real (s : CString) : Prop :=
  ∃ front back, s.bytes = front ++ 46 :: back ∧ (∀ b ∈ front, 48 ≤ b ∧ b ≤ 57) ∧ Digits back

/-- It has a point, so it is no row of digits. -/
theorem Real.not_digits {s : CString} (real : Real s) : ¬ Digits s.bytes := by
  obtain ⟨front, back, bytes, -⟩ := real
  intro number
  have point : (46 : UInt8) ∈ s.bytes := by
    rw [bytes]
    exact List.mem_append_right front List.mem_cons_self
  exact absurd (number.all 46 point) (by decide)

/-- A real number with a colon behind it. -/
theorem reads_float {s : CString} (real : Real s) :
    Reads (s.bytes ++ [58]) [.FLOAT s, .COLON_SY] := by
  obtain ⟨front, back, bytes, all, fraction⟩ := real
  have found (rest : List UInt8) : longest (s.bytes ++ ([58] ++ rest)) = s.bytes.length ∧
      token (s.bytes ++ ([58] ++ rest)) = some (.FLOAT s) := by
    have whole : s.bytes ++ ([58] ++ rest) = front ++ 46 :: (back ++ ([58] ++ rest)) := by
      rw [bytes, List.append_assoc, List.cons_append]
    obtain ⟨b, input, cons, numeral⟩ : ∃ b input, s.bytes ++ ([58] ++ rest) = b :: input ∧
        Numeral b := by
      rw [whole]
      cases front with
      | nil => exact ⟨46, _, rfl, .inl rfl⟩
      | cons b front => exact ⟨b, _, rfl, .inr (all b List.mem_cons_self)⟩
    have count : digits (s.bytes ++ ([58] ++ rest)) = front.length := by
      rw [whole]
      exact digits_append all (by decide) _
    have behindPoint : digits (back ++ ([58] ++ rest)) = back.length :=
      digits_append fraction.all (by decide) rest
    have pos : 0 < back.length := List.length_pos_iff.mpr fraction.some
    have length : s.bytes.length = front.length + 1 + back.length := by
      rw [bytes, List.length_append, List.length_cons]
      omega
    have float : Pattern.float.matched (s.bytes ++ ([58] ++ rest)) = s.bytes.length := by
      simp only [Pattern.matched, count]
      rw [whole, List.drop_left]
      simp only [behindPoint]
      rw [if_neg pos.ne', length]
    have words := words_of_numeral numeral input
    obtain ⟨blanks, other⟩ := matched_of_numeral numeral input
    rw [← cons] at words blanks other
    have behind : (rules.drop 28).map (·.pattern.matched (s.bytes ++ ([58] ++ rest))) =
        [front.length, 0, 1] := by
      rw [← count, ← blanks, ← other]
      rfl
    have split : rules = rules.take 27 ++
      ⟨.float, fun yytext => some (.FLOAT (.ofBytes yytext))⟩ :: rules.drop 28 := rfl
    have zero : ∀ m ∈ List.replicate 27 0, m < s.bytes.length := by simp; omega
    have less : ∀ m ∈ [front.length, 0, 1], m ≤ s.bytes.length := by simp; omega
    obtain ⟨size, token⟩ := token_eq split (forall_of_map words zero) float
      (forall_of_map behind less)
    rw [List.take_left] at token
    have same := congrArg (fun text => some (Token.FLOAT text)) (CString.ofBytes_bytes s)
    exact ⟨size, token.trans same⟩
  have ne : s.bytes ≠ [] := by rw [bytes]; simp
  exact reads_colon.cons s.bytes (some (.FLOAT s)) ne (fun rest => (found rest).1)
    fun rest => (found rest).2

/-! ### Words -/

/-- The bytes of a word. -/
abbrev word (text : String) : List UInt8 := (CString.ofString text).bytes

theorem reads_lt : Reads (word "<") [.LT_SY] :=
  reads_of_longest (word "<") (some .LT_SY) (by decide) (fun _ => rfl) fun _ => rfl

theorem reads_gt : Reads (word ">") [.GT_SY] :=
  reads_of_longest (word ">") (some .GT_SY) (by decide) (fun _ => rfl) fun _ => rfl

theorem reads_equal : Reads (word "=") [.EQUAL_SY] :=
  reads_of_longest (word "=") (some .EQUAL_SY) (by decide) (fun _ => rfl) fun _ => rfl

theorem reads_slash : Reads (word "/") [.SLASH_SY] :=
  reads_of_longest (word "/") (some .SLASH_SY) (by decide) (fun _ => rfl) fun _ => rfl

theorem reads_close : Reads (word "/>") [.SLASH_SY, .GT_SY] := reads_slash.append reads_gt

/-- A tag behind the one before. -/
theorem reads_next : Reads (word "\n\t<") [.LT_SY] :=
  (reads_lt.cons (word "\t") none (by decide) (fun _ => rfl) fun _ => rfl).cons (word "\n") none
    (by decide) (fun _ => rfl) fun _ => rfl

/-- The last tag. -/
theorem reads_last : Reads (word "\n</") [.LT_SY, .SLASH_SY] :=
  (reads_lt.append reads_slash).cons (word "\n") none (by decide) (fun _ => rfl) fun _ => rfl

theorem reads_CommandMsg : Reads (word "CommandMsg") [.CMD_MSG_SY] :=
  reads_of_longest (word "CommandMsg") (some .CMD_MSG_SY) (by decide) (fun _ => rfl) fun _ => rfl

theorem reads_DataMsg : Reads (word "DataMsg") [.DATA_MSG_SY] :=
  reads_of_longest (word "DataMsg") (some .DATA_MSG_SY) (by decide) (fun _ => rfl) fun _ => rfl

theorem reads_FaultMsg : Reads (word "FaultMsg") [.FAULT_MSG_SY] :=
  reads_of_longest (word "FaultMsg") (some .FAULT_MSG_SY) (by decide) (fun _ => rfl) fun _ => rfl

theorem reads_Command : Reads (word "Command" ++ word ">") [.CMD_SY, .GT_SY] :=
  reads_gt.cons (word "Command") (some .CMD_SY) (by decide) (fun _ => rfl) fun _ => rfl

theorem reads_Notification : Reads (word "Notification" ++ word ">") [.NOTI_SY, .GT_SY] :=
  reads_gt.cons (word "Notification") (some .NOTI_SY) (by decide) (fun _ => rfl) fun _ => rfl

theorem reads_Request : Reads (word "Request" ++ word ">") [.RQST_SY, .GT_SY] :=
  reads_gt.cons (word "Request") (some .RQST_SY) (by decide) (fun _ => rfl) fun _ => rfl

theorem reads_NS : Reads (word "NS:") [.NOT_SPECIFIED_SY, .COLON_SY] :=
  reads_colon.cons (word "NS") (some .NOT_SPECIFIED_SY) (by decide) (fun _ => rfl) fun _ => rfl

/-- An attribute. -/
theorem reads_name : Reads (word " name=") [.NAME_SY, .EQUAL_SY] :=
  (reads_equal.cons (word "name") (some .NAME_SY) (by decide) (fun _ => rfl) fun _ => rfl).cons
    (word " ") none (by decide) (fun _ => rfl) fun _ => rfl

theorem reads_id : Reads (word " id=") [.ID_SY, .EQUAL_SY] :=
  (reads_equal.cons (word "id") (some .ID_SY) (by decide) (fun _ => rfl) fun _ => rfl).cons
    (word " ") none (by decide) (fun _ => rfl) fun _ => rfl

theorem reads_length : Reads (word " length=") [.LENGTH_SY, .EQUAL_SY] :=
  (reads_equal.cons (word "length") (some .LENGTH_SY) (by decide) (fun _ => rfl) fun _ => rfl).cons
    (word " ") none (by decide) (fun _ => rfl) fun _ => rfl

theorem reads_Variable : Reads (word " Variable:") [.VAR_SY, .COLON_SY] :=
  (reads_colon.cons (word "Variable") (some .VAR_SY) (by decide) (fun _ => rfl) fun _ => rfl).cons
    (word " ") none (by decide) (fun _ => rfl) fun _ => rfl

end Sdm.MessageDefinition

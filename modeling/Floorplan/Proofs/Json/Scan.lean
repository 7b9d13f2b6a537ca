import Floorplan.Proofs.Json.Grammar

set_option autoImplicit false

namespace Floorplan.Json

open Number (digitsValue)
open Token (isBlank isHighHalf isLowHalf joinHalves mark? next? numeral scan scanExponent scanFraction scanNumber
  scanPower scanText scanUnsigned scanWhole scanWith spanDigits unicodeEscape? unit?)

mutual

def tokens : Json → List Token
  | .null => [.null]
  | .bool value => [.bool value]
  | .number value => [.number value]
  | .string text => [.string text]
  | .array items => .openArray :: (itemTokens items ++ [.closeArray])
  | .object members => .openObject :: (memberTokens members ++ [.closeObject])

def itemTokens : List Json → List Token
  | [] => []
  | [item] => tokens item
  | item :: next :: rest => tokens item ++ .comma :: itemTokens (next :: rest)

def memberTokens : List (Text × Json) → List Token
  | [] => []
  | [(name, value)] => .string name :: .colon :: tokens value
  | (name, value) :: next :: rest =>
    .string name :: .colon :: (tokens value ++ .comma :: memberTokens (next :: rest))

end

def Ends (s : List Char) : Prop :=
  ∀ c ∈ s.head?, c.isDigit = false ∧ c ≠ '.' ∧ c ≠ 'e' ∧ c ≠ 'E'

def NoDigit (s : List Char) : Prop := ∀ c ∈ s.head?, c.isDigit = false

theorem no_digit_cons (c : Char) (s : List Char) (other : c.isDigit = false) : NoDigit (c :: s) := by
  intro d first
  cases first
  exact other

theorem Ends.no_digit {s : List Char} (ends : Ends s) : NoDigit s := fun c first => (ends c first).1

theorem ends_cons (c : Char) (s : List Char)
    (other : c.isDigit = false ∧ c ≠ '.' ∧ c ≠ 'e' ∧ c ≠ 'E') : Ends (c :: s) := by
  intro d first
  cases first
  exact other

theorem blank_cases (c : Char) (blank : isBlank c = true) : c = ' ' ∨ c = '\t' ∨ c = '\n' ∨ c = '\r' := by
  simpa [isBlank, or_assoc] using blank

theorem blanks_end (blanks s : List Char) (blank : Blanks blanks) (ends : Ends s) : Ends (blanks ++ s) := by
  cases blanks with
  | nil => exact ends
  | cons c rest =>
      apply ends_cons
      rcases blank_cases c (blank c List.mem_cons_self) with rfl | rfl | rfl | rfl <;> decide

section Numbers

theorem span_digits (digits s : List Char) (proper : ∀ c ∈ digits, c.isDigit = true) (ends : NoDigit s) :
    spanDigits (digits ++ s) = (digits, s) := by
  have taken : s.takeWhile Char.isDigit = [] ∧ s.dropWhile Char.isDigit = s := by
    cases s with
    | nil => exact ⟨rfl, rfl⟩
    | cons c rest => simp [ends c rfl]
  rw [spanDigits, List.takeWhile_append_of_pos proper, List.dropWhile_append_of_pos proper, taken.1, taken.2,
    List.append_nil]

theorem scan_whole (whole s : List Char) (spelled : SpellsWhole whole) (ends : NoDigit s) :
    scanWhole (whole ++ s) = some (whole, s) := by
  cases spelled with
  | zero => rfl
  | digits _ proper leading =>
      have other (rest : List Char) (shape : whole ++ s = '0' :: rest) : False := by
        cases whole with
        | nil => exact proper.1 rfl
        | cons c others =>
            cases shape
            exact leading rfl
      rw [Token.scanWhole.eq_2 _ other, span_digits whole s proper.2 ends]
      cases whole with
      | nil => exact absurd rfl proper.1
      | cons c rest => rfl

theorem scan_fraction (fraction : Option (List Char)) (places s : List Char)
    (spelled : SpellsFraction fraction places) (ends : NoDigit s) (point : ∀ c ∈ s.head?, c ≠ '.') :
    scanFraction (places ++ s) = some (fraction, s) := by
  cases spelled with
  | absent =>
      apply Token.scanFraction.eq_2
      rintro rest rfl
      exact point '.' rfl rfl
  | places digits proper =>
      rw [List.cons_append, scanFraction, span_digits digits s proper.2 ends]
      cases digits with
      | nil => exact absurd rfl proper.1
      | cons c rest => rfl

theorem scan_power (negative : Bool) (digits s : List Char) (proper : Digits digits) (ends : NoDigit s) :
    scanPower negative (digits ++ s)
      = some (some (if negative then -(digitsValue digits : Int) else digitsValue digits), s) := by
  rw [scanPower, span_digits digits s proper.2 ends]
  cases digits with
  | nil => exact absurd rfl proper.1
  | cons c rest => rfl

theorem scan_exponent_absent (s : List Char) (ends : Ends s) : scanExponent s = some (none, s) := by
  fun_cases scanExponent s with
  | case1 c rest letter => exact absurd letter (by simpa using (ends c rfl).2.2)
  | case2 => rfl
  | case3 c rest letter => exact absurd letter (by simpa using (ends c rfl).2.2)
  | case4 => rfl
  | case5 c rest plus minus letter => exact absurd letter (by simpa using (ends c rfl).2.2)
  | case6 => rfl
  | case7 => rfl

theorem scan_exponent (power : Option Int) (scale s : List Char) (spelled : SpellsPower power scale)
    (ends : Ends s) : scanExponent (scale ++ s) = some (power, s) := by
  cases spelled with
  | absent => exact scan_exponent_absent s ends
  | power letter negative sign digits exponent signed proper =>
      have read := scan_power negative digits s proper ends.no_digit
      rw [List.cons_append, List.append_assoc]
      cases signed with
      | plus =>
          rw [List.cons_append, scanExponent, if_pos exponent]
          exact read
      | minus =>
          rw [List.cons_append, scanExponent, if_pos exponent]
          exact read
      | absent =>
          obtain ⟨c, rest, rfl⟩ := List.exists_cons_of_ne_nil proper.1
          have digit : c.isDigit = true := proper.2 c List.mem_cons_self
          rw [List.nil_append, Token.scanExponent.eq_3, if_pos exponent]
          · exact read
          · intro others shape
            cases shape
            cases digit
          · intro others shape
            cases shape
            cases digit

theorem fraction_ends (fraction : Option (List Char)) (places s : List Char)
    (spelled : SpellsFraction fraction places) (ends : NoDigit s) : NoDigit (places ++ s) := by
  cases spelled with
  | absent => exact ends
  | places => exact no_digit_cons _ _ (by decide)

theorem power_ends (power : Option Int) (scale s : List Char) (spelled : SpellsPower power scale)
    (ends : Ends s) : NoDigit (scale ++ s) ∧ ∀ c ∈ (scale ++ s).head?, c ≠ '.' := by
  cases spelled with
  | absent => exact ⟨ends.no_digit, fun c first => (ends c first).2.1⟩
  | power letter negative sign digits exponent signed proper =>
      rcases exponent with rfl | rfl <;> simp [NoDigit]

theorem scan_unsigned (negative : Bool) (whole : List Char) (fraction : Option (List Char)) (places : List Char)
    (power : Option Int) (scale s : List Char) (integral : SpellsWhole whole)
    (fractional : SpellsFraction fraction places) (scaled : SpellsPower power scale) (ends : Ends s) :
    scanUnsigned negative (whole ++ (places ++ (scale ++ s)))
      = some (numeral negative whole fraction power, s) := by
  have behind := power_ends power scale s scaled ends
  rw [scanUnsigned, scan_whole whole _ integral (fraction_ends fraction places _ fractional behind.1)]
  change (scanFraction (places ++ (scale ++ s))).bind _ = _
  rw [scan_fraction fraction places _ fractional behind.1 behind.2]
  change (scanExponent (scale ++ s)).bind _ = _
  rw [scan_exponent power scale s scaled ends]
  rfl

theorem whole_first (whole : List Char) (spelled : SpellsWhole whole) :
    ∃ c rest, whole = c :: rest ∧ c.isDigit = true := by
  cases spelled with
  | zero => exact ⟨'0', [], rfl, rfl⟩
  | digits _ proper =>
      obtain ⟨c, rest, rfl⟩ := List.exists_cons_of_ne_nil proper.1
      exact ⟨c, rest, rfl, proper.2 c List.mem_cons_self⟩

theorem number_first (value : Numeral) (s : List Char) (spelled : SpellsNumber value s) :
    ∃ c rest, s = c :: rest ∧ (c.isDigit = true ∨ c = '-') := by
  cases spelled with
  | number negative whole fraction places power scale integral fractional scaled =>
      obtain ⟨c, rest, rfl, digit⟩ := whole_first whole integral
      cases negative with
      | false => exact ⟨c, _, rfl, .inl digit⟩
      | true => exact ⟨'-', _, rfl, .inr rfl⟩

theorem scan_number (value : Numeral) (s rest : List Char) (spelled : SpellsNumber value s)
    (ends : Ends rest) : scanNumber (s ++ rest) = some (value, rest) := by
  cases spelled with
  | number negative whole fraction places power scale integral fractional scaled =>
      have read := scan_unsigned negative whole fraction places power scale rest integral fractional scaled ends
      simp only [List.append_assoc]
      cases negative with
      | true => exact read
      | false =>
          obtain ⟨c, others, rfl, digit⟩ := whole_first whole integral
          refine (Token.scanNumber.eq_2 _ ?_).trans read
          intro other shape
          cases shape
          cases digit

theorem next_number (c : Char) (rest : List Char) (first : c.isDigit = true ∨ c = '-') :
    next? (c :: rest) = (scanNumber (c :: rest)).map fun (value, rest) => (.number value, rest) := by
  have other (d : Char) (no : d.isDigit = false ∧ d ≠ '-') : c ≠ d := by
    rintro rfl
    rcases first with digit | rfl
    · exact absurd digit (by simp [no.1])
    · exact no.2 rfl
  have marked : mark? c = none :=
    Token.mark?.eq_7 c (other '[' (by decide)) (other ']' (by decide)) (other '\x7b' (by decide))
      (other '\x7d' (by decide)) (other ',' (by decide)) (other ':' (by decide))
  rw [Token.next?.eq_6 c rest (other '"' (by decide)), marked]
  · exact fun _ same => absurd same (other 'n' (by decide))
  · exact fun _ same => absurd same (other 't' (by decide))
  · exact fun _ same => absurd same (other 'f' (by decide))

end Numbers

section Strings

-- A second half is looked for past the end of the text, where the closing quote stands; but an escape that
-- is found lies within the text.
theorem escape_within (text : Option (List Char)) (s rest : List Char) (spelled : SpellsChars text s)
    (e f g h : Char) (others : List Char)
    (shape : s ++ '"' :: rest = '\\' :: 'u' :: e :: f :: g :: h :: others) :
    ∃ low after, s = '\\' :: 'u' :: e :: f :: g :: h :: after ∧ unit? e f g h = some low := by
  cases spelled with
  | done => cases shape
  | plain c _ _ _ _ bare => exact absurd (List.head_eq_of_cons_eq shape) bare
  | escaped letter c _ _ short =>
      obtain rfl : letter = 'u' := List.head_eq_of_cons_eq (List.tail_eq_of_cons_eq shape)
      cases short
  | named a b c d unit _ _ read =>
      cases shape
      exact ⟨unit, _, rfl, read⟩
  | pair a b c d e f g h high low _ _ read =>
      cases shape
      exact ⟨high, _, rfl, read⟩
  | half a b c d unit _ _ read =>
      cases shape
      exact ⟨unit, _, rfl, read⟩

theorem not_both_halves (unit : Nat) (low : isLowHalf unit = true) : isHighHalf unit = false := by
  simp only [isLowHalf, isHighHalf, Bool.and_eq_true, decide_eq_true_eq, Bool.and_eq_false_iff,
    decide_eq_false_iff_not] at low ⊢
  omega

theorem half_escape (a b c d : Char) (unit : Nat) (text : Option (List Char)) (s rest : List Char)
    (read : unit? a b c d = some unit) (lone : isLowHalf unit = true ∨ isHighHalf unit = true ∧ ¬ BeginsLowHalf s)
    (next : SpellsChars text s) :
    unicodeEscape? (a :: b :: c :: d :: (s ++ '"' :: rest)) = some (none, 4) := by
  simp only [unicodeEscape?, read]
  change (if isHighHalf unit then _ else if isLowHalf unit then _ else _) = _
  rcases lone with second | ⟨first, alone⟩
  · rw [not_both_halves unit second, if_neg Bool.false_ne_true, if_pos second]
    rfl
  · rw [if_pos first]
    split
    next e f g h others shape =>
        obtain ⟨low, after, inside, follow⟩ := escape_within text s rest next e f g h others shape
        rw [follow]
        change (if isLowHalf low then _ else _) = _
        rw [if_neg fun second => alone ⟨e, f, g, h, low, after, inside, follow, second⟩]
        rfl
    next => rfl

def scanned (done : List Char) (whole : Bool) (text : Option (List Char)) : Text :=
  if whole then text.map fun chars => String.ofList (done.reverse ++ chars) else none

theorem scanned_push (done : List Char) (whole : Bool) (c : Char) (text : Option (List Char)) :
    scanned (c :: done) whole text = scanned done whole (text.map (c :: ·)) := by
  cases text <;> simp [scanned]

theorem scanned_half (done : List Char) (whole : Bool) (text : Option (List Char)) :
    scanned done false text = scanned done whole none := by
  cases whole <;> rfl

theorem scan_text (text : Option (List Char)) (s rest : List Char) (spelled : SpellsChars text s)
    (done : List Char) (whole : Bool) :
    scanText done whole 0 (s ++ '"' :: rest) = some (scanned done whole text, rest) := by
  induction spelled generalizing done whole with
  | done => simp [scanText, scanned]
  | plain c text s printed unquoted bare next ih =>
      rw [List.cons_append, Token.scanText.eq_6 done whole c _ unquoted (fun _ same => absurd same bare)
        (fun _ _ same => absurd same bare), if_neg (Nat.not_lt.mpr printed), ih, scanned_push]
  | escaped letter c text s short next ih =>
      have other : letter ≠ 'u' := by
        rintro rfl
        cases short
      rw [List.cons_append, List.cons_append, Token.scanText.eq_5 done whole letter _ other, short]
      exact (ih (c :: done) whole).trans (by rw [scanned_push])
  | named a b c d unit text s read first second next ih =>
      have escape : unicodeEscape? (a :: b :: c :: d :: (s ++ '"' :: rest)) = some (some (Char.ofNat unit), 4) := by
        simp [unicodeEscape?, read, first, second]
      simp only [List.cons_append, scanText, escape, ih, scanned_push]
  | pair a b c d e f g h high low text s read first follow second next ih =>
      have escape : unicodeEscape? (a :: b :: c :: d :: '\\' :: 'u' :: e :: f :: g :: h :: (s ++ '"' :: rest))
          = some (some (joinHalves high low), 10) := by
        simp [unicodeEscape?, read, first, follow, second]
      simp only [List.cons_append, scanText, escape, ih, scanned_push]
  | half a b c d unit text s read lone next ih =>
      have escape := half_escape a b c d unit text s rest read lone next
      simp only [List.cons_append, scanText, escape, ih, scanned_half done whole text]

theorem next_text (text : Text) (s rest : List Char) (spelled : SpellsText text s) :
    next? (s ++ rest) = some (.string text, rest) := by
  cases spelled with
  | text chars s inner =>
      rw [List.cons_append, List.append_assoc, List.singleton_append, next?, scan_text chars s rest inner]
      rfl

end Strings

section Tokens

theorem scan_more (fuel more : Nat) (s : List Char) (found : List Token) (run : scanWith fuel s = some found)
    (enough : fuel ≤ more) : scanWith more s = some found := by
  induction fuel generalizing more s found with
  | zero =>
      cases s with
      | nil => cases more <;> exact run
      | cons c rest => cases run
  | succ fuel ih =>
      obtain ⟨more, rfl⟩ := Nat.exists_eq_add_of_le' (Nat.lt_of_lt_of_le fuel.succ_pos enough)
      have enough : fuel ≤ more := Nat.le_of_succ_le_succ enough
      cases s with
      | nil => exact run
      | cons c rest =>
          rw [scanWith] at run ⊢
          split at run
          next blank =>
            rw [if_pos blank]
            exact ih more rest found run enough
          next blank =>
              rw [if_neg blank]
              cases first : next? (c :: rest) with
              | none =>
                  rw [first] at run
                  cases run
              | some token =>
                  obtain ⟨token, others⟩ := token
                  rw [first] at run
                  obtain ⟨tail, tailRun, same⟩ := Option.map_eq_some_iff.mp run
                  change (scanWith more others).map _ = _
                  rw [ih more others tail tailRun enough]
                  exact congrArg some same

def Scans (follow : List Char → Prop) (s : List Char) (found : List Token) : Prop :=
  ∀ rest others fuel, follow rest → scanWith fuel rest = some others →
    scanWith (s.length + fuel) (s ++ rest) = some (found ++ others)

def Anything (_ : List Char) : Prop := True

variable {follow next : List Char → Prop}

theorem Scans.append {s t : List Char} {first second : List Token} (left : Scans follow s first)
    (right : Scans next t second) (link : ∀ rest, next rest → follow (t ++ rest)) :
    Scans next (s ++ t) (first ++ second) := by
  intro rest others fuel allowed run
  rw [List.append_assoc, List.append_assoc, List.length_append, Nat.add_assoc]
  exact left _ _ _ (link rest allowed) (right rest others fuel allowed run)

theorem Scans.ahead {s t : List Char} {first second : List Token} (left : Scans Anything s first)
    (right : Scans next t second) : Scans next (s ++ t) (first ++ second) :=
  left.append right fun _ _ => trivial

theorem scans_blanks (blanks : List Char) (blank : Blanks blanks) : Scans follow blanks [] := by
  intro rest others fuel _ run
  induction blanks with
  | nil =>
      rw [List.length_nil, Nat.zero_add]
      exact run
  | cons c s ih =>
      rw [List.length_cons, Nat.add_right_comm, List.cons_append, scanWith,
        if_pos (blank c List.mem_cons_self)]
      exact ih fun d inside => blank d (List.mem_cons_of_mem c inside)

theorem scans_token (c : Char) (s : List Char) (token : Token) (printed : isBlank c = false)
    (first : ∀ rest, follow rest → next? (c :: (s ++ rest)) = some (token, rest)) :
    Scans follow (c :: s) [token] := by
  intro rest others fuel allowed run
  rw [List.length_cons, Nat.add_right_comm, List.cons_append, scanWith, printed, if_neg Bool.false_ne_true,
    first rest allowed]
  change (scanWith (s.length + fuel) rest).map _ = _
  rw [scan_more fuel _ rest others run (Nat.le_add_left fuel s.length)]
  rfl

theorem scans_mark (c : Char) (token : Token) (marked : mark? c = some token) : Scans follow [c] [token] := by
  have shape : c = '[' ∨ c = ']' ∨ c = '\x7b' ∨ c = '\x7d' ∨ c = ',' ∨ c = ':' := by
    revert marked
    fun_cases mark? c <;> simp
  apply scans_token
  · rcases shape with rfl | rfl | rfl | rfl | rfl | rfl <;> rfl
  · intro rest _
    rcases shape with rfl | rfl | rfl | rfl | rfl | rfl <;> cases marked <;> rfl

theorem scans_text (text : Text) (s : List Char) (spelled : SpellsText text s) :
    Scans follow s [.string text] := by
  have shape : ∃ t, s = '"' :: t := by
    cases spelled
    exact ⟨_, rfl⟩
  obtain ⟨t, rfl⟩ := shape
  exact scans_token '"' t _ rfl fun rest _ => next_text text _ rest spelled

theorem scans_number (value : Numeral) (s : List Char) (spelled : SpellsNumber value s) :
    Scans Ends s [.number value] := by
  obtain ⟨c, t, rfl, first⟩ := number_first value s spelled
  apply scans_token
  · rcases first with digit | rfl
    · cases blank : isBlank c with
      | false => rfl
      | true => rcases blank_cases c blank with rfl | rfl | rfl | rfl <;> cases digit
    · rfl
  · intro rest ends
    rw [next_number c _ first, ← List.cons_append, scan_number value _ rest spelled ends]
    rfl

theorem scans_between (left right : Char) (opened closed : Token) (s : List Char) (found : List Token)
    (begins : mark? left = some opened) (ends : mark? right = some closed)
    (close : right.isDigit = false ∧ right ≠ '.' ∧ right ≠ 'e' ∧ right ≠ 'E') (inner : Scans Ends s found) :
    Scans Ends (left :: (s ++ [right])) (opened :: (found ++ [closed])) := by
  have inside : Scans Ends (s ++ [right]) (found ++ [closed]) :=
    inner.append (scans_mark right closed ends) fun rest _ => ends_cons right rest close
  exact (scans_mark left opened begins).ahead inside

theorem scans_spaced (before s after : List Char) (found : List Token) (left : Blanks before)
    (right : Blanks after) (inner : Scans Ends s found) : Scans Ends (before ++ (s ++ after)) found := by
  have trailing := inner.append (scans_blanks after right) fun rest => blanks_end after rest right
  have whole := (scans_blanks before left).ahead trailing
  rwa [List.nil_append, List.append_nil] at whole

theorem scans_comma (s others : List Char) (found rest : List Token) (inner : Scans Ends s found)
    (behind : Scans Ends others rest) : Scans Ends (s ++ ',' :: others) (found ++ .comma :: rest) := by
  have comma := (scans_mark ',' .comma rfl).ahead behind
  exact inner.append comma fun tail _ => ends_cons ',' _ (by decide)

theorem scans_member (name : Text) (value : Json) (s : List Char) (spelled : SpellsMember name value s)
    (content : ∀ s, Spells value s → Scans Ends s (tokens value)) :
    Scans Ends s (.string name :: .colon :: tokens value) := by
  cases spelled with
  | member _ _ before label middle gap s after left named ahead behind inner right =>
      have valued := scans_spaced gap s after _ behind right (content s inner)
      have colon := (scans_mark ':' .colon rfl).ahead valued
      have parted := (scans_blanks middle ahead).ahead colon
      have labelled := (scans_text name label named).ahead parted
      exact (scans_blanks before left).ahead labelled

mutual

theorem scans_value (json : Json) (s : List Char) (spelled : Spells json s) : Scans Ends s (tokens json) := by
  cases json with
  | null =>
      cases spelled
      exact scans_token 'n' _ _ rfl fun rest _ => rfl
  | bool value =>
      cases spelled
      cases value with
      | true => exact scans_token 't' _ _ rfl fun rest _ => rfl
      | false => exact scans_token 'f' _ _ rfl fun rest _ => rfl
  | number value => cases spelled with | number _ _ leaf => exact scans_number value s leaf
  | string text => cases spelled with | string _ _ leaf => exact scans_text text s leaf
  | array items =>
      cases spelled with
      | array _ s inner =>
          exact scans_between '[' ']' .openArray .closeArray s _ rfl rfl (by decide) (scans_items items s inner)
  | object members =>
      cases spelled with
      | object _ s inner =>
          exact scans_between '\x7b' '\x7d' .openObject .closeObject s _ rfl rfl (by decide)
            (scans_members members s inner)

theorem scans_items (items : List Json) (s : List Char) (spelled : SpellsItems items s) :
    Scans Ends s (itemTokens items) := by
  match items with
  | [] => cases spelled with | empty _ blank => exact scans_blanks s blank
  | [item] =>
      cases spelled with
      | last _ before s after left right value =>
          exact scans_spaced before s after _ left right (scans_value item s value)
  | item :: next :: rest =>
      cases spelled with
      | more _ _ _ before s after others left right value remaining =>
          have first := scans_spaced before s after _ left right (scans_value item s value)
          have all := scans_comma _ others _ _ first (scans_items (next :: rest) others remaining)
          rwa [List.append_assoc, List.append_assoc] at all

theorem scans_members (members : List (Text × Json)) (s : List Char) (spelled : SpellsMembers members s) :
    Scans Ends s (memberTokens members) := by
  match members with
  | [] => cases spelled with | empty _ blank => exact scans_blanks s blank
  | [(name, value)] =>
      cases spelled with
      | last _ _ _ member => exact scans_member name value s member (scans_value value)
  | (name, value) :: next :: rest =>
      cases spelled with
      | more _ _ _ _ s others member remaining =>
          exact scans_comma s others _ _ (scans_member name value s member (scans_value value))
            (scans_members (next :: rest) others remaining)

end

end Tokens

theorem scan_document (json : Json) (text : String) (spelled : IsText json text) :
    scan text.toList = some (tokens json) := by
  obtain ⟨before, s, after, left, value, right, shape⟩ := spelled
  have run := scans_spaced before s after _ left right (scans_value json s value) [] [] 0
    (fun _ first => by cases first) rfl
  rw [scan, shape]
  simpa only [List.append_nil, Nat.add_zero] using run

end Floorplan.Json

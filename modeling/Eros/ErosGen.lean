import Mathlib.Data.List.Induction
import Mathlib.Data.Nat.Digits.Defs
import Mathlib.Tactic.Common

/-!
# `eros_gen.py`

One configuration of addresses is written into the templates of the SystemVerilog package,
of the linker script and of the C header.  A placeholder `${a.b}` becomes the number at
its path, everything else of a template stays, and all three languages read the same
number as far as 32 bits hold it.
-/

set_option autoImplicit false

namespace Eros.ErosGen

abbrev Text := List Char

/-- The keys of a placeholder, `a.b` split at its dots. -/
abbrev KeyPath := List Text

inductive Config
  | int (val : Int)
  | str (val : Text)
  | dict (entries : List (Text × Config))

/-- `get_config_value`; `none` is its `KeyError`. -/
def getConfigValue : Config → KeyPath → Option Config
  | val, [] => some val
  | .dict entries, key :: path =>
      match entries.lookup key with
      | some val => getConfigValue val path
      | none => none
  | _, _ :: _ => none

/-! ## Numbers -/

def upperDigit (digit : Nat) : Char := (Nat.digitChar digit).toUpper

/-- `format(val, 'X')` of a natural number. -/
def hexDigits (val : Nat) : Text :=
  if val = 0 then ['0'] else ((Nat.digits 16 val).map upperDigit).reverse

def formatX (val : Int) : Text :=
  if val < 0 then '-' :: hexDigits val.natAbs else hexDigits val.natAbs

/-- `text.strip(chars)`, for the characters that are `dropped`. -/
def strip (dropped : Char → Bool) (text : Text) : Text :=
  ((text.dropWhile dropped).reverse.dropWhile dropped).reverse

/-- `s[2:]` when `s.lower()` starts with `0x`. -/
def dropPrefix : Text → Text
  | zero :: x :: digits => if zero = '0' ∧ x.toLower = 'x' then digits else zero :: x :: digits
  | text => text

/-- A value as text without blanks, quotes and prefix. -/
def bareDigits (val : Text) : Text :=
  dropPrefix (strip (· == '\'') (strip (· == '"') (strip Char.isWhitespace val)))

variable (reprOf : List (Text × Config) → Text)

/-- `to_hex_string`; `reprOf` is Python's `str` of a dictionary. -/
def toHexString : Config → Text
  | .int val => (formatX val).map Char.toUpper
  | .str val => (bareDigits val).map Char.toUpper
  | .dict entries => (bareDigits (reprOf entries)).map Char.toUpper

/-! ## Placeholders -/

def isKeyChar (c : Char) : Bool := c.isAlphanum || c == '_'

/-- The rest of a match behind `${`: `key` and `path` are what has been read of it, and the
result has the number of characters read on. -/
def matchPath (key : Text) (path : KeyPath) : Text → Option (KeyPath × Nat)
  | [] => none
  | c :: text =>
      if isKeyChar c then (matchPath (key ++ [c]) path text).map fun found => (found.1, found.2 + 1)
      else if key = [] then none
      else if c = '.' then (matchPath [] (path ++ [key]) text).map fun found => (found.1, found.2 + 1)
      else if c = '}' then some (path ++ [key], 1)
      else none

/-- `pattern` at the head of the text: the path and the length of the match. -/
def matchAt : Text → Option (KeyPath × Nat)
  | '$' :: '{' :: text => (matchPath [] [] text).map fun found => (found.1, found.2 + 2)
  | _ => none

/-- `pattern.subn`: every match from the left, without overlap; `skip` characters belong
to the last one. -/
def subn (repl : KeyPath → Text) : Nat → Text → Text
  | _, [] => []
  | skip + 1, _ :: text => subn repl skip text
  | 0, c :: text =>
      match matchAt (c :: text) with
      | some (path, length) => repl path ++ subn repl (length - 1) text
      | none => c :: subn repl 0 text

def placeholder (path : KeyPath) : Text := ['$', '{'] ++ ['.'].intercalate path ++ ['}']

/-- The prefix of a number: `32'h` stands in the SystemVerilog template itself. -/
def numberPrefix (name : Text) : Text :=
  if ".sv.tpl".toList <:+ name then [] else ['0', 'x']

def repl (name : Text) (cfg : Config) (path : KeyPath) : Text :=
  match getConfigValue cfg path with
  | some val => numberPrefix name ++ toHexString reprOf val
  | none => placeholder path

def processTemplate (name : Text) (cfg : Config) (content : Text) : Text :=
  subn (repl reprOf name cfg) 0 content

/-! ### What a match is -/

/-- The keys of a placeholder that the pattern takes. -/
def KeysFit (path : KeyPath) : Prop := path ≠ [] ∧ ∀ key ∈ path, key ≠ [] ∧ ∀ c ∈ key, isKeyChar c = true

theorem intercalate_cons (key : Text) {path : KeyPath} (more : path ≠ []) :
    ['.'].intercalate (key :: path) = key ++ '.' :: ['.'].intercalate path := by
  obtain ⟨next, rest, rfl⟩ := List.exists_cons_of_ne_nil more
  simp [List.intercalate]

theorem matchPath_sound {text : Text} {key : Text} {path found : KeyPath} {length : Nat}
    (read : ∀ c ∈ key, isKeyChar c = true)
    (matched : matchPath key path text = some (found, length)) :
    ∃ keys, found = path ++ keys ∧ KeysFit keys ∧
      key ++ text.take length = ['.'].intercalate keys ++ ['}'] := by
  induction text generalizing key path length with
  | nil => simp [matchPath] at matched
  | cons c text ih =>
    rw [matchPath] at matched
    split_ifs at matched with keyChar empty dot brace
    · obtain ⟨⟨inner, count⟩, rest, same⟩ := Option.map_eq_some_iff.mp matched
      obtain ⟨rfl, rfl⟩ := Prod.mk.inj same
      obtain ⟨keys, whole, fit, shown⟩ := ih
        (by rw [List.forall_mem_append, List.forall_mem_singleton]; exact ⟨read, keyChar⟩) rest
      refine ⟨keys, whole, fit, ?_⟩
      rw [← shown, List.take_succ_cons, List.append_assoc, List.singleton_append]
    · obtain ⟨⟨inner, count⟩, rest, same⟩ := Option.map_eq_some_iff.mp matched
      obtain ⟨rfl, rfl⟩ := Prod.mk.inj same
      obtain ⟨keys, whole, fit, shown⟩ := ih (fun _ none => absurd none List.not_mem_nil) rest
      refine ⟨key :: keys, whole.trans (by rw [List.append_assoc, List.singleton_append]), ⟨List.cons_ne_nil _ _, ?_⟩, ?_⟩
      · rw [List.forall_mem_cons]
        exact ⟨⟨empty, read⟩, fit.2⟩
      · rw [intercalate_cons key fit.1, List.take_succ_cons, ← List.nil_append (text.take count),
          shown, dot, List.append_assoc, List.cons_append]
    · obtain ⟨rfl, rfl⟩ := Prod.mk.inj (Option.some.inj matched)
      refine ⟨[key], rfl, ⟨List.cons_ne_nil _ _, ?_⟩, ?_⟩
      · rw [List.forall_mem_singleton]
        exact ⟨empty, read⟩
      · simp [List.intercalate, brace]

theorem matchPath_keyChars {key more : Text} (path : KeyPath) (text : Text)
    (read : ∀ c ∈ more, isKeyChar c = true) : matchPath key path (more ++ text) =
      (matchPath (key ++ more) path text).map fun found => (found.1, found.2 + more.length) := by
  induction more generalizing key with
  | nil => simp
  | cons c more ih =>
    obtain ⟨keyChar, rest⟩ := List.forall_mem_cons.mp read
    rw [List.cons_append, matchPath, if_pos keyChar, ih rest, Option.map_map, List.append_assoc,
      List.singleton_append]
    rfl

theorem matchPath_complete {keys : KeyPath} (fit : KeysFit keys) (path : KeyPath) (text : Text) :
    matchPath [] path (['.'].intercalate keys ++ '}' :: text) =
      some (path ++ keys, (['.'].intercalate keys).length + 1) := by
  induction keys generalizing path with
  | nil => exact absurd rfl fit.1
  | cons key keys ih =>
    obtain ⟨⟨filled, read⟩, others⟩ := List.forall_mem_cons.mp fit.2
    by_cases last : keys = []
    · subst last
      have alone : ['.'].intercalate [key] = key := by simp [List.intercalate]
      rw [alone, matchPath_keyChars path _ read, List.nil_append, matchPath, if_neg (by decide),
        if_neg filled, if_neg (by decide), if_pos rfl]
      simp [Nat.add_comm]
    · rw [intercalate_cons key last, List.append_assoc, matchPath_keyChars path _ read,
        List.nil_append, List.cons_append, matchPath, if_neg (by decide), if_neg filled, if_pos rfl,
        ih ⟨last, others⟩]
      simp
      omega

theorem matchAt_sound {text : Text} {path : KeyPath} {length : Nat}
    (matched : matchAt text = some (path, length)) :
    0 < length ∧ KeysFit path ∧ text.take length = placeholder path := by
  rw [matchAt.eq_def] at matched
  split at matched
  · next text =>
    obtain ⟨⟨inner, count⟩, rest, same⟩ := Option.map_eq_some_iff.mp matched
    obtain ⟨rfl, rfl⟩ := Prod.mk.inj same
    obtain ⟨keys, rfl, fit, shown⟩ :=
      matchPath_sound (fun _ none => absurd none List.not_mem_nil) rest
    refine ⟨by omega, fit, ?_⟩
    rw [List.take_succ_cons, List.take_succ_cons, ← List.nil_append (text.take count), shown]
    rfl
  · cases matched

theorem matchAt_complete {path : KeyPath} (fit : KeysFit path) (text : Text) :
    matchAt (placeholder path ++ text) = some (path, (placeholder path).length) := by
  have opened : placeholder path ++ text =
      '$' :: '{' :: (['.'].intercalate path ++ '}' :: text) := by simp [placeholder]
  rw [opened, matchAt, matchPath_complete fit]
  simp [placeholder]

theorem matchAt_of_ne {c : Char} (other : c ≠ '$') (text : Text) : matchAt (c :: text) = none := by
  rw [matchAt.eq_def]
  split
  · next same =>
    exact absurd (List.cons.inj same).1 other
  · rfl

/-! ## Templates -/

/-- What a template consists of. -/
inductive Piece
  | char (c : Char)
  | number (path : KeyPath)

def Piece.source : Piece → Text
  | .char c => [c]
  | .number path => placeholder path

def Piece.result (repl : KeyPath → Text) : Piece → Text
  | .char c => [c]
  | .number path => repl path

/-- The matches of the pattern and the characters between them. -/
def pieces : Nat → Text → List Piece
  | _, [] => []
  | skip + 1, _ :: text => pieces skip text
  | 0, c :: text =>
      match matchAt (c :: text) with
      | some (path, length) => .number path :: pieces (length - 1) text
      | none => .char c :: pieces 0 text

theorem subn_eq (repl : KeyPath → Text) (skip : Nat) (text : Text) :
    subn repl skip text = (pieces skip text).flatMap (Piece.result repl) := by
  induction text generalizing skip with
  | nil => cases skip <;> rfl
  | cons c text ih =>
    cases skip with
    | zero =>
      rw [subn, pieces]
      cases matchAt (c :: text) with
      | none => simp [ih, Piece.result]
      | some found => simp [ih, Piece.result]
    | succ skip => exact ih skip

theorem flatMap_source (skip : Nat) (text : Text) :
    (pieces skip text).flatMap Piece.source = text.drop skip := by
  induction text generalizing skip with
  | nil => cases skip <;> rfl
  | cons c text ih =>
    cases skip with
    | zero =>
      rw [pieces]
      cases matched : matchAt (c :: text) with
      | none => simp [ih, Piece.source]
      | some found =>
        obtain ⟨path, length⟩ := found
        obtain ⟨positive, _, shown⟩ := matchAt_sound matched
        obtain ⟨length, rfl⟩ := Nat.exists_eq_add_of_le' positive
        simp only [List.flatMap_cons, ih, Piece.source, ← shown, Nat.add_sub_cancel]
        exact List.take_append_drop (length + 1) (c :: text)
    | succ skip => exact ih skip

theorem pieces_fit (skip : Nat) (text : Text) (path : KeyPath)
    (member : Piece.number path ∈ pieces skip text) : KeysFit path := by
  induction text generalizing skip with
  | nil => cases skip <;> cases member
  | cons c text ih =>
    cases skip with
    | zero =>
      rw [pieces] at member
      cases matched : matchAt (c :: text) with
      | none =>
        rw [matched] at member
        rcases List.mem_cons.mp member with other | rest
        · cases other
        · exact ih 0 rest
      | some found =>
        obtain ⟨other, length⟩ := found
        rw [matched] at member
        rcases List.mem_cons.mp member with same | rest
        · obtain rfl := Piece.number.inj same
          exact (matchAt_sound matched).2.1
        · exact ih _ rest
    | succ skip => exact ih skip member

theorem pieces_skip (skip : Nat) (text : Text) : pieces skip text = pieces 0 (text.drop skip) := by
  induction text generalizing skip with
  | nil => cases skip <;> rfl
  | cons c text ih =>
    cases skip with
    | zero => rfl
    | succ skip => exact ih skip

/-- A piece that the pattern cannot take for the beginning of another. -/
def Piece.Plain : Piece → Prop
  | .char c => c ≠ '$'
  | .number path => KeysFit path

theorem pieces_flatMap_source {parts : List Piece} (plain : ∀ part ∈ parts, part.Plain) :
    pieces 0 (parts.flatMap Piece.source) = parts := by
  induction parts with
  | nil => rfl
  | cons part parts ih =>
    obtain ⟨first, rest⟩ := List.forall_mem_cons.mp plain
    rw [List.flatMap_cons]
    cases part with
    | char c =>
      rw [Piece.source, List.singleton_append, pieces, matchAt_of_ne first]
      exact congrArg _ (ih rest)
    | number path =>
      have matched := matchAt_complete first (parts.flatMap Piece.source)
      have opened : placeholder path = '$' :: (placeholder path).tail := rfl
      rw [opened, List.cons_append] at matched
      rw [Piece.source, opened, List.cons_append, pieces, matched]
      simp only [List.length_cons, Nat.add_sub_cancel]
      rw [pieces_skip, List.drop_left, ih rest]

/-! ## The number in the three languages -/

def digitValue (digit : Char) : Nat :=
  if digit.isDigit then digit.toNat - '0'.toNat
  else if digit.isUpper then digit.toNat - 'A'.toNat + 10
  else digit.toNat - 'a'.toNat + 10

def readHex (digits : Text) : Nat := digits.foldl (fun value digit => value * 16 + digitValue digit) 0

/-- A literal behind `32'h`: the digits above the width are lost. -/
def readSv (digits : Text) : Nat := readHex digits % 2 ^ 32

/-- A literal of the header or of the linker script, read with its prefix. -/
def readPrefixed : Text → Option Nat
  | '0' :: 'x' :: digits => some (readHex digits)
  | _ => none

def hexCharacters : Text :=
  ['0', '1', '2', '3', '4', '5', '6', '7', '8', '9',
    'a', 'b', 'c', 'd', 'e', 'f', 'A', 'B', 'C', 'D', 'E', 'F']

/-- The number that a value of the configuration stands for. -/
inductive Means : Config → Nat → Prop
  | int (val : Nat) : Means (.int val) val
  | str {val : Text} (number : bareDigits val ≠ [])
      (hex : ∀ digit ∈ bareDigits val, digit ∈ hexCharacters) :
      Means (.str val) (readHex (bareDigits val))

theorem digitValue_toUpper {digit : Char} (hex : digit ∈ hexCharacters) :
    digitValue digit.toUpper = digitValue digit := by
  have every : (hexCharacters.all fun digit => digitValue digit.toUpper == digitValue digit) = true := by
    decide
  exact beq_iff_eq.mp (List.all_eq_true.mp every digit hex)

theorem digitValue_upperDigit : ∀ digit < 16, digitValue (upperDigit digit).toUpper = digit := by
  decide

theorem readHex_append_singleton (digits : Text) (digit : Char) :
    readHex (digits ++ [digit]) = readHex digits * 16 + digitValue digit := by
  rw [readHex, List.foldl_append]
  rfl

theorem readHex_map_toUpper {digits : Text} (hex : ∀ digit ∈ digits, digit ∈ hexCharacters) :
    readHex (digits.map Char.toUpper) = readHex digits := by
  induction digits using List.reverseRecOn with
  | nil => rfl
  | append_singleton digits digit ih =>
    rw [List.forall_mem_append, List.forall_mem_singleton] at hex
    rw [List.map_append, List.map_singleton, readHex_append_singleton, readHex_append_singleton,
      ih hex.1, digitValue_toUpper hex.2]

theorem readHex_hexDigits (val : Nat) : readHex ((hexDigits val).map Char.toUpper) = val := by
  rw [hexDigits]
  split_ifs with zero
  · rw [zero]
    rfl
  · have digits : ∀ parts : List Nat, (∀ part ∈ parts, part < 16) →
        readHex (((parts.map upperDigit).reverse).map Char.toUpper) = Nat.ofDigits 16 parts := by
      intro parts small
      induction parts with
      | nil => rfl
      | cons part parts ih =>
        obtain ⟨first, rest⟩ := List.forall_mem_cons.mp small
        rw [List.map_cons, List.reverse_cons, List.map_append, List.map_singleton,
          readHex_append_singleton, ih rest, digitValue_upperDigit part first, Nat.ofDigits_cons,
          Nat.add_comm, Nat.mul_comm]
    rw [digits _ fun part member => Nat.digits_lt_base (by decide) member, Nat.ofDigits_digits]

theorem readHex_toHexString {cfg : Config} {val : Nat} (means : Means cfg val) :
    readHex (toHexString reprOf cfg) = val := by
  cases means with
  | int =>
    rw [toHexString, formatX, if_neg (by omega), Int.natAbs_natCast]
    exact readHex_hexDigits val
  | str _ hex => exact readHex_map_toUpper hex

theorem readSv_repl {name : Text} {cfg found : Config} {path : KeyPath} {val : Nat}
    (packageFile : ".sv.tpl".toList <:+ name) (there : getConfigValue cfg path = some found)
    (means : Means found val) : readSv (repl reprOf name cfg path) = val % 2 ^ 32 := by
  rw [repl, there, numberPrefix, if_pos packageFile]
  exact congrArg (· % 2 ^ 32) (readHex_toHexString reprOf means)

theorem readPrefixed_repl {name : Text} {cfg found : Config} {path : KeyPath} {val : Nat}
    (otherFile : ¬".sv.tpl".toList <:+ name) (there : getConfigValue cfg path = some found)
    (means : Means found val) : readPrefixed (repl reprOf name cfg path) = some val := by
  rw [repl, there, numberPrefix, if_neg otherFile]
  exact congrArg some (readHex_toHexString reprOf means)

/-- Every template is its placeholders and the characters between them, in one way when
no other `$` stands in it.  The script replaces the placeholders and nothing else, and
the number of the configuration is what each language reads in its file: the package its
low 32 bits, the header and the linker script all of it. -/
theorem templates_are_filled_alike (content : Text) :
    (pieces 0 content).flatMap Piece.source = content ∧
      (∀ path, Piece.number path ∈ pieces 0 content → KeysFit path) ∧
      (∀ parts : List Piece, (∀ part ∈ parts, part.Plain) → parts.flatMap Piece.source = content →
        pieces 0 content = parts) ∧
      ∀ (name : Text) (cfg : Config),
        processTemplate reprOf name cfg content =
            (pieces 0 content).flatMap (Piece.result (repl reprOf name cfg)) ∧
          ∀ (path : KeyPath) (found : Config) (val : Nat), getConfigValue cfg path = some found →
            Means found val → if ".sv.tpl".toList <:+ name then
              readSv (repl reprOf name cfg path) = val % 2 ^ 32
            else readPrefixed (repl reprOf name cfg path) = some val := by
  refine ⟨flatMap_source 0 content, pieces_fit 0 content, fun parts plain same => ?_,
    fun name cfg => ⟨subn_eq _ 0 content, fun path found val there means => ?_⟩⟩
  · rw [← same, pieces_flatMap_source plain]
  · split_ifs with packageFile
    · exact readSv_repl reprOf packageFile there means
    · exact readPrefixed_repl reprOf packageFile there means

/-- The address of the system bus as `addr.hjson` gives it. -/
def busConfig : Config :=
  .dict [("SystemBus".toList, .dict [("BaseAddress".toList, .str "0xF0000000".toList)])]

example : processTemplate (fun _ => []) "eros_pkg.sv.tpl".toList busConfig
    "32'h${SystemBus.BaseAddress};".toList = "32'hF0000000;".toList := by
  decide

example : processTemplate (fun _ => []) "link.ld.tpl".toList busConfig
    "${SystemBus.BaseAddress} + ${CSR.Size}".toList = "0xF0000000 + ${CSR.Size}".toList := by
  decide

end Eros.ErosGen

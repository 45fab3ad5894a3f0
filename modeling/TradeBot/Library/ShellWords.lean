import TradeBot.Library.Bytes

/-!
# Words of a shell command

How a shell cuts one line of a command: quoted text, escaped symbols, blanks and operators. The
pieces are kept in their order with the blanks between them, and text that was quoted or escaped
is kept apart from text that was not, so that `2>` and `2 >`, `&&` and `& &`, or a reserved word
and the same word in quotes are different commands. Text that makes a shell do more than cut
(expansions, patterns, double quotes, comments, input redirections and further lines) is not
described here.
-/

namespace TradeBot.Library

/-- The symbol that opens and closes a quoted text. -/
def shellQuote : UInt8 := 0x27

/-- The symbol that takes the next one as it is. -/
def shellEscape : UInt8 := 0x5c

/-- A piece of a command. Pieces of text with no blank or operator between them are one word. -/
inductive ShellToken
  | text (quoted : Bool) (bytes : Bytes)
  | blank
  | operator (symbol : UInt8)
deriving DecidableEq

inductive ShellError
  /-- The command ends inside of a quoted text. -/
  | unterminated
  /-- The command has more than words and operators. -/
  | unsupported
deriving DecidableEq

/-- How the next symbol is read. -/
inductive ShellMode
  | plain
  | quoted
  | escaped

/-- Symbols that end a word. -/
def isShellBlank (c : UInt8) : Bool := c == 0x20 || c == 0x09

/-- Symbols that end a word and stand for themselves. -/
def isShellOperator (c : UInt8) : Bool := (ascii ">|&;()").contains c

/-- Symbols that are more than a part of a word. -/
def isShellSpecial (c : UInt8) : Bool := (ascii "$\x60\"*?[#~=%!\x7b\x7d<\n").contains c

/-- The piece that is being read, if any. -/
abbrev ShellPiece := Option (Bool × Bytes)

/-- The piece as a token. -/
def ShellPiece.tokens (piece : ShellPiece) : List ShellToken :=
  (piece.map fun p => .text p.1 p.2).toList

/-- More text of one kind: it continues a piece of that kind and ends a piece of the other. -/
def addText (tokens : List ShellToken) (piece : ShellPiece) (quoted : Bool) (more : Bytes) :
    List ShellToken × ShellPiece :=
  match piece with
  | none => (tokens, some (quoted, more))
  | some (kind, bytes) =>
    if kind = quoted then (tokens, some (quoted, bytes ++ more))
    else (tokens ++ [.text kind bytes], some (quoted, more))

/-- The tokens of a command: those so far, the piece that is being read and the rest. -/
def shellTokensFrom : ShellMode → List ShellToken × ShellPiece → Bytes →
    Except ShellError (List ShellToken)
  | .plain, (tokens, piece), [] => .ok (tokens ++ piece.tokens)
  | .quoted, _, [] => .error .unterminated
  | .escaped, _, [] => .error .unsupported
  | .quoted, (tokens, piece), c :: rest =>
    if c = shellQuote then shellTokensFrom .plain (tokens, piece) rest
    else shellTokensFrom .quoted (addText tokens piece true [c]) rest
  | .escaped, (tokens, piece), c :: rest =>
    -- an escaped end of line disappears together with the escape
    if c = byteOf '\n' then .error .unsupported
    else shellTokensFrom .plain (addText tokens piece true [c]) rest
  | .plain, (tokens, piece), c :: rest =>
    if c = shellQuote then shellTokensFrom .quoted (addText tokens piece true []) rest
    else if c = shellEscape then shellTokensFrom .escaped (tokens, piece) rest
    else if isShellBlank c then
      shellTokensFrom .plain (tokens ++ piece.tokens ++ [.blank], none) rest
    else if isShellOperator c then
      shellTokensFrom .plain (tokens ++ piece.tokens ++ [.operator c], none) rest
    else if isShellSpecial c then .error .unsupported
    else shellTokensFrom .plain (addText tokens piece false [c]) rest

/-- The pieces of a command. -/
def shellTokens (command : Bytes) : Except ShellError (List ShellToken) :=
  shellTokensFrom .plain ([], none) command

/-- A text between quotes, where a quote is written as a quote that closes, an escaped one and
one that opens. -/
def quotedForShell (text : Bytes) : Bytes :=
  text.flatMap fun c => if c = shellQuote then ascii "'\\''" else [c]

/-- Quoting goes byte by byte. -/
theorem quotedForShell_cons (c : UInt8) (text : Bytes) : quotedForShell (c :: text) =
    (if c = shellQuote then ascii "'\\''" else [c]) ++ quotedForShell text := List.flatMap_cons

/-- **Quoting.** A quoted text is read as it is, whatever it is made of. -/
theorem shellTokensFrom_quoted (tokens : List ShellToken) (word text rest : Bytes) :
    shellTokensFrom .quoted (tokens, some (true, word)) (quotedForShell text ++ rest) =
      shellTokensFrom .quoted (tokens, some (true, word ++ text)) rest := by
  induction text generalizing word with
  | nil => rw [quotedForShell, List.flatMap_nil, List.nil_append, List.append_nil]
  | cons c text ih =>
    rw [quotedForShell_cons, List.append_assoc]
    by_cases hquote : c = shellQuote
    · -- The quote closes, the escaped one is a piece of its own kind, and the last one opens.
      have hread : shellTokensFrom .quoted (tokens, some (true, word))
          (ascii "'\\''" ++ (quotedForShell text ++ rest)) =
          shellTokensFrom .quoted (tokens, some (true, word ++ [shellQuote] ++ []))
            (quotedForShell text ++ rest) := rfl
      rw [if_pos hquote, hquote, hread, List.append_nil, ih, List.append_assoc,
        List.singleton_append]
    · rw [if_neg hquote, List.singleton_append, shellTokensFrom, if_neg hquote, addText,
        if_pos rfl, ih, List.append_assoc, List.singleton_append]

/-- A command that ends in a quoted text. -/
theorem shellTokensFrom_unterminated (tokens : List ShellToken) (word text : Bytes) :
    shellTokensFrom .quoted (tokens, some (true, word)) (quotedForShell text) =
      .error .unterminated := by
  rw [← List.append_nil (quotedForShell text), shellTokensFrom_quoted]
  rfl

/-- The text before its first zero byte, which ends it for a library of C. -/
def cString (text : Bytes) : Bytes := text.takeWhile (· != 0)

/-- No zero byte is left. -/
theorem zero_notMem_cString (text : Bytes) : 0 ∉ cString text := by
  intro hmem
  have hkept := List.all_eq_true.mp List.all_takeWhile 0 hmem
  exact absurd hkept (by decide)

/-- A text without a zero byte is kept by the conversion to a C string. -/
theorem cString_append_of_notMem {first second : Bytes} (h : 0 ∉ first) :
    cString (first ++ second) = first ++ cString second := by
  refine List.takeWhile_append_of_pos fun c hc => ?_
  rw [bne_iff_ne]
  rintro rfl
  exact h hc

/-- The first zero byte ends the C string. -/
theorem cString_append_of_mem {first second : Bytes} (h : 0 ∈ first) :
    cString (first ++ second) = cString first := by
  induction first with
  | nil => cases h
  | cons c first ih =>
    rw [cString, List.cons_append, List.takeWhile_cons, cString, List.takeWhile_cons]
    by_cases hzero : c = 0
    · rw [hzero]
      rfl
    · have hkept : (c != 0) = true := bne_iff_ne.mpr hzero
      rw [hkept, if_pos rfl, if_pos rfl]
      exact congrArg _ (ih (List.mem_of_ne_of_mem (Ne.symm hzero) h))

/-- Quoting adds no zero byte, and the text of C that is left is quoted. -/
theorem zero_mem_quotedForShell {text : Bytes} : 0 ∈ quotedForShell text ↔ 0 ∈ text := by
  have hquote : (0 : UInt8) ∉ ascii "'\\''" := by decide
  rw [quotedForShell, List.mem_flatMap]
  constructor
  · rintro ⟨c, hc, hmem⟩
    split at hmem
    · exact absurd hmem hquote
    · rwa [List.mem_singleton.mp hmem]
  · intro h
    refine ⟨0, h, ?_⟩
    rw [if_neg (by decide)]
    exact List.mem_singleton.mpr rfl

/-- Quoting puts no zero byte in and takes none out. -/
theorem cString_quotedForShell (text : Bytes) :
    cString (quotedForShell text) = quotedForShell (cString text) := by
  have hquote : (0 : UInt8) ∉ ascii "'\\''" := by decide
  induction text with
  | nil => rfl
  | cons c text ih =>
    by_cases hzero : c = 0
    · rw [hzero]
      rfl
    · have hkept : cString (c :: text) = c :: cString text := by
        rw [cString, List.takeWhile_cons, bne_iff_ne.mpr hzero, if_pos rfl]
        rfl
      have hpiece : (0 : UInt8) ∉ if c = shellQuote then ascii "'\\''" else [c] := by
        split
        · exact hquote
        · exact fun hmem => hzero (List.mem_singleton.mp hmem).symm
      rw [quotedForShell_cons, cString_append_of_notMem hpiece, ih, hkept, quotedForShell_cons]

end TradeBot.Library

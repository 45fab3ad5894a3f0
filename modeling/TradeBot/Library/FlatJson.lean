import TradeBot.Library.DecimalTexts

/-!
# Flat JSON objects

The grammar of an object whose values are strings, integers or null, on bytes and with the escapes
of a dialect. A production relates a text to what it stands for and to the rest of the text. A scan
over the text finds the slips that a lenient reader lets pass: well-formed objects have none.
-/

namespace TradeBot.Library.FlatJson

section Grammar

def quote : UInt8 := 0x22

def backslash : UInt8 := 0x5c

def openBrace : UInt8 := 0x7b

def closeBrace : UInt8 := 0x7d

def comma : UInt8 := 0x2c

def colon : UInt8 := 0x3a

def zero : UInt8 := 0x30

def minus : UInt8 := 0x2d

/-- The blanks of JSON. -/
def isBlank (c : UInt8) : Bool := c == 0x20 || c == 0x09 || c == 0x0d || c == 0x0a

/-- A value that is not nested. -/
inductive Value where
  | text (value : Bytes)
  | integer (value : ℤ)
  | null
  deriving DecidableEq

/-- Any number of blanks. -/
inductive Blanks : Bytes → Bytes → Prop
  | done (text : Bytes) : Blanks text text
  | skip {c : UInt8} {text rest : Bytes} : isBlank c = true → Blanks text rest →
      Blanks (c :: text) rest

/-- The characters of a string, up to and with its closing quotation mark. -/
inductive Characters (escapes : UInt8 → Option UInt8) : Bytes → Bytes → Bytes → Prop
  | close (rest : Bytes) : Characters escapes (quote :: rest) [] rest
  | plain {c : UInt8} {text value rest : Bytes} : ¬c < 0x20 → c ≠ quote → c ≠ backslash →
      Characters escapes text value rest → Characters escapes (c :: text) (c :: value) rest
  | escaped {e c : UInt8} {text value rest : Bytes} : escapes e = some c →
      Characters escapes text value rest →
      Characters escapes (backslash :: e :: text) (c :: value) rest

/-- A decimal numeral without leading zeros. -/
structure PlainNumeral (text : Bytes) (n : ℕ) : Prop extends Numeral text n where
  unpadded : text.head? = some zero → text = [zero]

/-- A value. -/
inductive Reads (escapes : UInt8 → Option UInt8) : Bytes → Value → Bytes → Prop
  | text {text value rest : Bytes} : Characters escapes text value rest →
      Reads escapes (quote :: text) (.text value) rest
  | natural {digits : Bytes} {n : ℕ} (rest : Bytes) : PlainNumeral digits n →
      Reads escapes (digits ++ rest) (.integer n) rest
  | negative {digits : Bytes} {n : ℕ} (rest : Bytes) : PlainNumeral digits n →
      Reads escapes (minus :: (digits ++ rest)) (.integer (-n)) rest
  | null (rest : Bytes) : Reads escapes (ascii "null" ++ rest) .null rest

/-- A key with its value, and the blanks around them. -/
inductive Member (escapes : UInt8 → Option UInt8) : Bytes → Bytes × Value → Bytes → Prop
  | intro {text first second third fourth fifth key rest : Bytes} {value : Value} :
      Blanks text (quote :: first) → Characters escapes first key second →
      Blanks second (colon :: third) → Blanks third fourth → Reads escapes fourth value fifth →
      Blanks fifth rest → Member escapes text (key, value) rest

/-- Members with a comma between any two of them, up to and with the closing brace. -/
inductive Members (escapes : UInt8 → Option UInt8) : Bytes → List (Bytes × Value) → Bytes → Prop
  | last {text rest : Bytes} {member : Bytes × Value} :
      Member escapes text member (closeBrace :: rest) → Members escapes text [member] rest
  | more {text next rest : Bytes} {member : Bytes × Value} {members : List (Bytes × Value)} :
      Member escapes text member (comma :: next) → Members escapes next members rest →
      Members escapes text (member :: members) rest

/-- A text that is one object. -/
inductive Object (escapes : UInt8 → Option UInt8) : Bytes → List (Bytes × Value) → Prop
  | empty {text inner after : Bytes} : Blanks text (openBrace :: inner) →
      Blanks inner (closeBrace :: after) → Blanks after [] → Object escapes text []
  | filled {text inner after : Bytes} {members : List (Bytes × Value)} :
      Blanks text (openBrace :: inner) → Members escapes inner members after →
      Blanks after [] → Object escapes text members

/-- Blanks after blanks are blanks. -/
theorem Blanks.trans {text middle rest : Bytes} (h : Blanks text middle)
    (hrest : Blanks middle rest) : Blanks text rest := by
  induction h with
  | done => exact hrest
  | skip hblank _ ih => exact Blanks.skip hblank (ih hrest)

/-- Blanks around a member belong to it. -/
theorem Member.blanks {escapes : UInt8 → Option UInt8} {text inner outer rest : Bytes}
    {member : Bytes × Value} (h : Member escapes inner member outer) (hbefore : Blanks text inner)
    (hafter : Blanks outer rest) : Member escapes text member rest := by
  obtain ⟨hkey, hcharacters, hcolon, hvalue, hreads, hrest⟩ := h
  exact Member.intro (hbefore.trans hkey) hcharacters hcolon hvalue hreads (hrest.trans hafter)

end Grammar

section Scan

/-- Where a scan is: between tokens, right behind a digit, or inside a string. -/
inductive Place where
  | between
  | digit
  | string
  deriving DecidableEq

/-- A scan finds no slip: outside of strings no comma before a closing brace and no number with a
leading zero, and inside of strings no control byte and no escape that the dialect does not have. -/
def clean (escapes : UInt8 → Option UInt8) : Place → Bytes → Bool
  | _, [] => true
  | .string, c :: rest =>
    if c = quote then clean escapes .between rest
    else if c < 0x20 then false
    else if c ≠ backslash then clean escapes .string rest
    else
      match rest with
      | [] => true
      | e :: rest => (escapes e).isSome && clean escapes .string rest
  | place, c :: rest =>
    if c = quote then clean escapes .string rest
    else if c = comma then
      (rest.dropWhile isBlank).head? != some closeBrace && clean escapes .between rest
    else if isDecimalDigit c then
      !(place != .digit && c == zero && rest.head?.any isDecimalDigit) && clean escapes .digit rest
    else clean escapes .between rest

variable {escapes : UInt8 → Option UInt8}

/-- The empty text is clean at every place. -/
theorem clean_nil (place : Place) : clean escapes place [] = true := by
  cases place <;> rfl

/-- A step of the scan outside of strings. -/
theorem clean_cons {place : Place} (hplace : place ≠ .string) (c : UInt8) (rest : Bytes) :
    clean escapes place (c :: rest) =
      if c = quote then clean escapes .string rest
      else if c = comma then
        (rest.dropWhile isBlank).head? != some closeBrace && clean escapes .between rest
      else if isDecimalDigit c then
        !(place != .digit && c == zero && rest.head?.any isDecimalDigit) &&
          clean escapes .digit rest
      else clean escapes .between rest := by
  cases place with
  | between => rfl
  | digit => rfl
  | string => exact absurd rfl hplace

/-- A step of the scan inside of a string. -/
theorem clean_string_cons (c : UInt8) (rest : Bytes) :
    clean escapes .string (c :: rest) =
      if c = quote then clean escapes .between rest
      else if c < 0x20 then false
      else if c ≠ backslash then clean escapes .string rest
      else rest.head?.all (fun e => (escapes e).isSome) && clean escapes .string rest.tail := by
  cases rest <;> rfl

/-- Outside of a string a quote opens one. -/
theorem clean_quote {place : Place} (hplace : place ≠ .string) (rest : Bytes) :
    clean escapes place (quote :: rest) = clean escapes .string rest := by
  rw [clean_cons hplace, if_pos rfl]

/-- Outside of a string a comma is clean unless a closing brace follows it. -/
theorem clean_comma {place : Place} (hplace : place ≠ .string) (rest : Bytes) :
    clean escapes place (comma :: rest) =
      ((rest.dropWhile isBlank).head? != some closeBrace && clean escapes .between rest) := by
  rw [clean_cons hplace, if_neg (by decide), if_pos rfl]

/-- Outside of a string a digit is clean unless it continues a number that begins with zero. -/
theorem clean_digit {place : Place} (hplace : place ≠ .string) {c : UInt8}
    (hdigit : isDecimalDigit c = true) (rest : Bytes) :
    clean escapes place (c :: rest) =
      (!(place != .digit && c == zero && rest.head?.any isDecimalDigit) &&
        clean escapes .digit rest) := by
  have hquote : c ≠ quote := by
    rintro rfl
    exact absurd hdigit (by decide)
  have hcomma : c ≠ comma := by
    rintro rfl
    exact absurd hdigit (by decide)
  rw [clean_cons hplace, if_neg hquote, if_neg hcomma, if_pos hdigit]

/-- Outside of a string any other character ends a number. -/
theorem clean_other {place : Place} (hplace : place ≠ .string) {c : UInt8} (hquote : c ≠ quote)
    (hcomma : c ≠ comma) (hdigit : isDecimalDigit c = false) (rest : Bytes) :
    clean escapes place (c :: rest) = clean escapes .between rest := by
  rw [clean_cons hplace, if_neg hquote, if_neg hcomma, if_neg (Bool.eq_false_iff.mp hdigit)]

/-- In a string a quote closes it. -/
theorem clean_close (rest : Bytes) :
    clean escapes .string (quote :: rest) = clean escapes .between rest := by
  rw [clean_string_cons, if_pos rfl]

/-- In a string a control character is not clean. -/
theorem clean_control {c : UInt8} (hcontrol : c < 0x20) (hquote : c ≠ quote) (rest : Bytes) :
    clean escapes .string (c :: rest) = false := by
  rw [clean_string_cons, if_neg hquote, if_pos hcontrol]

/-- In a string a plain character stays in it. -/
theorem clean_plain {c : UInt8} (hcontrol : ¬c < 0x20) (hquote : c ≠ quote)
    (hbackslash : c ≠ backslash) (rest : Bytes) :
    clean escapes .string (c :: rest) = clean escapes .string rest := by
  rw [clean_string_cons, if_neg hquote, if_neg hcontrol, if_pos hbackslash]

/-- In a string a backslash is clean when an escape follows it. -/
theorem clean_escape (e : UInt8) (rest : Bytes) :
    clean escapes .string (backslash :: e :: rest) =
      ((escapes e).isSome && clean escapes .string rest) := by
  rw [clean_string_cons, if_neg (by decide), if_neg (by decide), if_neg (not_not.mpr rfl)]
  rfl

/-- A blank is no digit. -/
theorem isDecimalDigit_blank {c : UInt8} (h : isBlank c = true) : isDecimalDigit c = false := by
  rw [Bool.eq_false_iff]
  intro hdigit
  have hlow := (isDecimalDigit_iff.mp hdigit).1
  have hle : c.toNat ≤ 0x20 := by
    simp only [isBlank, Bool.or_eq_true, beq_iff_eq] at h
    rcases h with ((rfl | rfl) | rfl) | rfl <;> decide
  omega

/-- Blanks between the tokens do not matter. -/
theorem clean_blanks {text rest : Bytes} (h : Blanks text rest) :
    clean escapes .between text = clean escapes .between rest := by
  induction h with
  | done text => rfl
  | @skip c text rest hblank _ ih =>
    have hne {d : UInt8} (hd : isBlank d = false) : c ≠ d := by
      rintro rfl
      rw [hblank] at hd
      cases hd
    rw [clean_other (by decide) (hne (by decide)) (hne (by decide)) (isDecimalDigit_blank hblank),
      ih]

/-- The characters of a string are clean up to the quote that closes it. -/
theorem clean_characters {text value rest : Bytes} (h : Characters escapes text value rest) :
    clean escapes .string text = clean escapes .between rest := by
  induction h with
  | close rest => exact clean_close rest
  | plain hcontrol hquote hbackslash _ ih => rw [clean_plain hcontrol hquote hbackslash, ih]
  | escaped hescape _ ih => rw [clean_escape, hescape, Option.isSome_some, Bool.true_and, ih]

/-- Behind a number the scan goes on as it does anywhere else. -/
theorem clean_behind_digits {rest : Bytes} (h : ∀ c ∈ rest.head?, isDecimalDigit c = false) :
    clean escapes .digit rest = clean escapes .between rest := by
  cases rest with
  | nil => rfl
  | cons c rest =>
    have hdigit := Bool.eq_false_iff.mp (h c rfl)
    rw [clean_cons (by decide), clean_cons (by decide), if_neg hdigit, if_neg hdigit]

/-- A run of digits is clean up to what ends it. -/
theorem clean_digits {text rest : Bytes} (hdigits : ∀ c ∈ text, isDecimalDigit c = true)
    (hrest : ∀ c ∈ rest.head?, isDecimalDigit c = false) :
    clean escapes .digit (text ++ rest) = clean escapes .between rest := by
  induction text with
  | nil => exact clean_behind_digits hrest
  | cons c text ih =>
    rw [List.cons_append, clean_digit (by decide) (hdigits c List.mem_cons_self),
      ih fun d hd => hdigits d (List.mem_cons_of_mem c hd)]
    rfl

/-- The scan finds out whether digits have a leading zero. -/
theorem clean_numeral {text rest : Bytes} (hsome : text ≠ [])
    (hdigits : ∀ c ∈ text, isDecimalDigit c = true)
    (hrest : ∀ c ∈ rest.head?, isDecimalDigit c = false) :
    clean escapes .between (text ++ rest) =
      (decide (text.head? = some zero → text = [zero]) && clean escapes .between rest) := by
  obtain ⟨c, text, rfl⟩ := List.exists_cons_of_ne_nil hsome
  rw [List.cons_append, clean_digit (by decide) (hdigits c List.mem_cons_self),
    clean_digits (fun d hd => hdigits d (List.mem_cons_of_mem c hd)) hrest]
  congr 1
  cases text with
  | nil =>
    have hstop : rest.head?.any isDecimalDigit = false := by
      cases rest with
      | nil => rfl
      | cons d rest => exact hrest d rfl
    simp [hstop]
  | cons d text =>
    have hdigit := hdigits d (List.mem_cons_of_mem c List.mem_cons_self)
    have hplace : (Place.between != Place.digit) = true := rfl
    rw [Bool.eq_iff_iff]
    simp [hdigit, hplace]

/-- What begins with another character does not begin with a digit. -/
theorem head_other {c : UInt8} (hc : isDecimalDigit c = false) (text : Bytes) :
    ∀ d ∈ (c :: text).head?, isDecimalDigit d = false := by
  intro d hd
  obtain rfl : c = d := Option.some.inj hd
  exact hc

/-- A value that is read is clean, unless a digit follows it. -/
theorem clean_reads {text rest : Bytes} {value : Value} (h : Reads escapes text value rest)
    (hrest : ∀ c ∈ rest.head?, isDecimalDigit c = false) :
    clean escapes .between text = clean escapes .between rest := by
  cases h with
  | text hcharacters => rw [clean_quote (by decide), clean_characters hcharacters]
  | natural _ hnumeral =>
    rw [clean_numeral hnumeral.ne_nil hnumeral.digits hrest, decide_eq_true hnumeral.unpadded,
      Bool.true_and]
  | negative _ hnumeral =>
    rw [clean_other (by decide) (by decide) (by decide) (by decide),
      clean_numeral hnumeral.ne_nil hnumeral.digits hrest, decide_eq_true hnumeral.unpadded,
      Bool.true_and]
  | null =>
    change clean escapes .between (_ :: _ :: _ :: _ :: rest) = _
    rw [clean_other (by decide) (by decide) (by decide) (by decide),
      clean_other (by decide) (by decide) (by decide) (by decide),
      clean_other (by decide) (by decide) (by decide) (by decide),
      clean_other (by decide) (by decide) (by decide) (by decide)]

/-- Blanks do not begin with a digit, unless there are none. -/
theorem Blanks.head {text rest : Bytes} (h : Blanks text rest)
    (hrest : ∀ c ∈ rest.head?, isDecimalDigit c = false) :
    ∀ c ∈ text.head?, isDecimalDigit c = false := by
  cases h with
  | done => exact hrest
  | skip hblank _ => exact head_other (isDecimalDigit_blank hblank) _

/-- A member that is read is clean, unless a digit follows it. -/
theorem clean_member {text rest : Bytes} {member : Bytes × Value}
    (h : Member escapes text member rest)
    (hrest : ∀ c ∈ rest.head?, isDecimalDigit c = false) :
    clean escapes .between text = clean escapes .between rest := by
  obtain ⟨hbefore, hkey, hcolon, hvalue, hreads, hafter⟩ := h
  rw [clean_blanks hbefore, clean_quote (by decide), clean_characters hkey, clean_blanks hcolon,
    clean_other (by decide) (by decide) (by decide) (by decide), clean_blanks hvalue,
    clean_reads hreads (hafter.head hrest), clean_blanks hafter]

/-- Behind blanks there is what the blanks are dropped to. -/
theorem Blanks.dropWhile_eq {text rest : Bytes} (h : Blanks text rest)
    (hrest : ∀ c ∈ rest.head?, isBlank c = false) : text.dropWhile isBlank = rest := by
  induction h with
  | done text =>
    cases text with
    | nil => rfl
    | cons c text => rw [List.dropWhile_cons, hrest c rfl, if_neg (by decide)]
  | skip hblank _ ih => rw [List.dropWhile_cons, if_pos hblank, ih hrest]

/-- The members of an object begin with the quote of the first key. -/
theorem Members.head {text rest : Bytes} {members : List (Bytes × Value)}
    (h : Members escapes text members rest) : (text.dropWhile isBlank).head? = some quote := by
  have hquote (tail : Bytes) : ∀ c ∈ (quote :: tail).head?, isBlank c = false := by
    intro c hc
    obtain rfl : quote = c := Option.some.inj hc
    decide
  cases h with
  | last hmember =>
    obtain ⟨hbefore, -⟩ := hmember
    rw [hbefore.dropWhile_eq (hquote _), List.head?_cons]
  | more hmember _ =>
    obtain ⟨hbefore, -⟩ := hmember
    rw [hbefore.dropWhile_eq (hquote _), List.head?_cons]

/-- The members of an object are clean up to what follows them. -/
theorem clean_members {text rest : Bytes} {members : List (Bytes × Value)}
    (h : Members escapes text members rest) :
    clean escapes .between text = clean escapes .between rest := by
  induction h with
  | last hmember =>
    rw [clean_member hmember (head_other (by decide) _),
      clean_other (by decide) (by decide) (by decide) (by decide)]
  | more hmember hmembers ih =>
    rw [clean_member hmember (head_other (by decide) _), clean_comma (by decide), hmembers.head, ih]
    rfl

/-- **Well-formed objects have no slip.** -/
theorem Object.clean {text : Bytes} {members : List (Bytes × Value)}
    (h : Object escapes text members) : clean escapes .between text = true := by
  cases h with
  | empty hbefore hinner hafter =>
    rw [clean_blanks hbefore, clean_other (by decide) (by decide) (by decide) (by decide),
      clean_blanks hinner, clean_other (by decide) (by decide) (by decide) (by decide),
      clean_blanks hafter, clean_nil]
  | filled hbefore hmembers hafter =>
    rw [clean_blanks hbefore, clean_other (by decide) (by decide) (by decide) (by decide),
      clean_members hmembers, clean_blanks hafter, clean_nil]

end Scan

end TradeBot.Library.FlatJson

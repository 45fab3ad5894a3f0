import TradeBot.FinancialExactness
import TradeBot.Library.Bytes

/-!
# The token response

The strict reader of the token endpoint's JSON. A cursor is what remains of the text; each
reading function returns what it has read, or nothing, with the cursor as the function leaves
it.
-/

namespace TradeBot

open Library

namespace CTraderGate6Runtime

section JsonCursor

/-- What remains of the text that a `JsonCursor` reads. -/
abbrev JsonCursor := Bytes

/-- The quotation mark. -/
def quote : UInt8 := 0x22

/-- The escape character. -/
def backslash : UInt8 := 0x5c

/-- The brace that opens the object. -/
def openBrace : UInt8 := 0x7b

/-- The brace that closes the object. -/
def closeBrace : UInt8 := 0x7d

/-- The whitespace of `skipWhitespace`. -/
def isWhitespace (c : UInt8) : Bool := c == 0x20 || c == 0x09 || c == 0x0d || c == 0x0a

/-- `skipWhitespace` -/
def skipWhitespace (cursor : JsonCursor) : JsonCursor := cursor.dropWhile isWhitespace

/-- `consume` -/
def consume (expected : UInt8) (cursor : JsonCursor) : Bool × JsonCursor :=
  match skipWhitespace cursor with
  | [] => (false, [])
  | c :: rest => if c = expected then (true, rest) else (false, c :: rest)

/-- `atEnd` -/
def atEnd (cursor : JsonCursor) : Bool := (skipWhitespace cursor).isEmpty

/-- The escapes that `stringValue` knows. -/
def unescape (escaped : UInt8) : Option UInt8 :=
  if escaped = quote then some escaped
  else if escaped = backslash then some escaped
  else if escaped = byteOf '/' then some escaped
  else if escaped = byteOf 'b' then some 0x08
  else if escaped = byteOf 'f' then some 0x0c
  else if escaped = byteOf 'n' then some 0x0a
  else if escaped = byteOf 'r' then some 0x0d
  else if escaped = byteOf 't' then some 0x09
  else none

/-- The loop of `stringValue`. -/
def stringBody (result : Bytes) : JsonCursor → Option Bytes × JsonCursor
  | [] => (none, [])
  | c :: rest =>
    if c = quote then (some result, rest)
    else if c < 0x20 then (none, rest)
    else if c ≠ backslash then stringBody (result ++ [c]) rest
    else
      match rest with
      | [] => (none, [])
      | escaped :: rest =>
        match unescape escaped with
        | none => (none, rest)
        | some c => stringBody (result ++ [c]) rest

/-- `stringValue` -/
def stringValue (cursor : JsonCursor) : Option Bytes × JsonCursor :=
  match skipWhitespace cursor with
  | [] => (none, [])
  | c :: rest => if c = quote then stringBody [] rest else (none, c :: rest)

/-- A decimal digit. -/
def isDigit (c : UInt8) : Bool := decide (byteOf '0' ≤ c ∧ c ≤ byteOf '9')

/-- The number that decimal digits spell. -/
def decimal (digits : Bytes) : ℕ :=
  digits.foldl (fun value c => value * 10 + (c - byteOf '0').toNat) 0

/-- What `std::from_chars` makes of an optional sign and digits. -/
def fromChars (negative : Bool) (digits : Bytes) : Option Int64 :=
  if digits.isEmpty then none
  else
    let value : ℤ := if negative then -(decimal digits : ℤ) else decimal digits
    if value < Int64.minValue.toInt ∨ Int64.maxValue.toInt < value then none
    else some (Int64.ofInt value)

/-- `integerValue` -/
def integerValue (cursor : JsonCursor) : Option Int64 × JsonCursor :=
  let cursor := skipWhitespace cursor
  let negative := cursor.head? == some (byteOf '-')
  let unsigned := if negative then cursor.tail else cursor
  (fromChars negative (unsigned.takeWhile isDigit), unsigned.dropWhile isDigit)

/-- `nullValue` -/
def nullValue (cursor : JsonCursor) : Bool × JsonCursor :=
  let cursor := skipWhitespace cursor
  if cursor.take 4 = ascii "null" then (true, cursor.drop 4) else (false, cursor)

end JsonCursor

section Response

/-- `TokenEnvelope` -/
structure TokenEnvelope where
  accessToken : Bytes := []
  refreshToken : Bytes := []
  tokenType : Bytes := []
  expiresAtEpochSeconds : Int64 := 0
  deriving DecidableEq

/-- The locals of `parseTokenResponseImpl`, with its output. -/
structure ResponseScan where
  output : TokenEnvelope := {}
  haveAccess : Bool := false
  haveRefresh : Bool := false
  haveType : Bool := false
  haveExpires : Bool := false
  errorWasNull : Bool := false
  keys : List Bytes := []

/-- The longest token that `parseTokenResponseImpl` takes. -/
def maxTokenBytes : ℕ := 8192

/-- The longest lifetime that `parseTokenResponseImpl` takes, in seconds. -/
def maxExpiresIn : Int64 := 10 * 365 * 24 * 60 * 60

/-- A text value of the response. -/
def tokenText (cursor : JsonCursor) : Option (Bytes × JsonCursor) :=
  match stringValue cursor with
  | (none, _) => none
  | (some value, cursor) => if boundedText value maxTokenBytes then some (value, cursor) else none

/-- The value of a key that `parseTokenResponseImpl` does not know. -/
def skipValue (cursor : JsonCursor) : Option JsonCursor :=
  match stringValue cursor with
  | (some _, cursor) => some cursor
  | (none, cursor) =>
    match nullValue cursor with
    | (true, cursor) => some cursor
    | (false, cursor) =>
      match integerValue cursor with
      | (some _, cursor) => some cursor
      | (none, _) => none

/-- The value of a key, with the clock's seconds. -/
def memberValue (now : Int64) (key : Bytes) (scan : ResponseScan) (cursor : JsonCursor) :
    Option (ResponseScan × JsonCursor) :=
  if key = ascii "accessToken" then
    (tokenText cursor).map fun (value, cursor) =>
      ({ scan with
        output := { scan.output with accessToken := value }
        haveAccess := true }, cursor)
  else if key = ascii "refreshToken" then
    (tokenText cursor).map fun (value, cursor) =>
      ({ scan with
        output := { scan.output with refreshToken := value }
        haveRefresh := true }, cursor)
  else if key = ascii "tokenType" then
    (tokenText cursor).map fun (value, cursor) =>
      ({ scan with
        output := { scan.output with tokenType := value }
        haveType := true }, cursor)
  else if key = ascii "expiresIn" then
    match integerValue cursor with
    | (none, _) => none
    | (some value, cursor) =>
      if value ≤ 0 ∨ maxExpiresIn < value then none
      else if Int64.maxValue - value < now then none
      else
        some ({ scan with
          output := { scan.output with expiresAtEpochSeconds := now + value }
          haveExpires := true }, cursor)
  else if key = ascii "errorCode" then
    match nullValue cursor with
    | (false, _) => none
    | (true, cursor) => some ({ scan with errorWasNull := true }, cursor)
  else (skipValue cursor).map fun cursor => (scan, cursor)

/-- A key with its value. -/
def member (now : Int64) (scan : ResponseScan) (cursor : JsonCursor) :
    Option (ResponseScan × JsonCursor) :=
  match stringValue cursor with
  | (none, _) => none
  | (some key, cursor) =>
    match consume (byteOf ':') cursor with
    | (false, _) => none
    | (true, cursor) =>
      if key ∈ scan.keys then none
      else memberValue now key { scan with keys := scan.keys ++ [key] } cursor

/-- The loop of `parseTokenResponseImpl`, up to the closing brace. Every turn that goes on has
taken a symbol, so the length of the text is fuel enough. -/
def members (now : Int64) : ℕ → ResponseScan → JsonCursor → Option (ResponseScan × JsonCursor)
  | 0, _, _ => none
  | fuel + 1, scan, cursor =>
    match consume closeBrace cursor with
    | (true, cursor) => some (scan, cursor)
    | (false, cursor) =>
      match member now scan cursor with
      | none => none
      | some (scan, cursor) =>
        match consume (byteOf ',') cursor with
        | (true, cursor) => members now fuel scan cursor
        | (false, cursor) =>
          match consume closeBrace cursor with
          | (true, cursor) => some (scan, cursor)
          | (false, _) => none

/-- `parseTokenResponse`, with the clock's seconds. -/
def parseTokenResponse (now : Int64) (body : Bytes) : Option TokenEnvelope :=
  match consume openBrace body with
  | (false, _) => none
  | (true, cursor) =>
    match members now (body.length + 1) {} cursor with
    | none => none
    | some (scan, cursor) =>
      if atEnd cursor && scan.haveAccess && scan.haveRefresh && scan.haveType &&
          scan.haveExpires && scan.errorWasNull && scan.output.tokenType == ascii "bearer" then
        some scan.output
      else none

end Response

section Fuel

/-- Passing over blanks does not lengthen the text. -/
theorem length_skipWhitespace (cursor : JsonCursor) :
    (skipWhitespace cursor).length ≤ cursor.length := by
  exact (List.dropWhile_sublist _).length_le

/-- A character that is consumed shortens the text. -/
theorem length_of_consume {expected : UInt8} {cursor rest : JsonCursor} {found : Bool}
    (h : consume expected cursor = (found, rest)) :
    rest.length + found.toNat ≤ cursor.length := by
  have hskip := length_skipWhitespace cursor
  unfold consume at h
  split at h
  · cases h
    exact Nat.zero_le _
  · rename_i c rest' hrest
    rw [hrest, List.length_cons] at hskip
    split at h
    · cases h
      exact hskip
    · cases h
      exact hskip

/-- Reading the body of a string does not lengthen the text. -/
theorem length_stringBody (result : Bytes) (cursor : JsonCursor) :
    (stringBody result cursor).2.length ≤ cursor.length := by
  fun_induction stringBody result cursor <;> simp_all <;> omega

/-- Reading a string does not lengthen the text. -/
theorem length_stringValue (cursor : JsonCursor) :
    (stringValue cursor).2.length ≤ cursor.length := by
  have hskip := length_skipWhitespace cursor
  unfold stringValue
  cases hrest : skipWhitespace cursor with
  | nil => exact Nat.zero_le _
  | cons c rest =>
    rw [hrest, List.length_cons] at hskip
    dsimp only
    split
    · exact (length_stringBody [] rest).trans (by omega)
    · rw [List.length_cons]
      exact hskip

/-- Reading an integer does not lengthen the text. -/
theorem length_integerValue (cursor : JsonCursor) :
    (integerValue cursor).2.length ≤ cursor.length := by
  have hskip := length_skipWhitespace cursor
  unfold integerValue
  dsimp only
  apply (List.dropWhile_sublist _).length_le.trans
  split
  · exact (List.tail_sublist _).length_le.trans hskip
  · exact hskip

/-- Looking for null does not lengthen the text. -/
theorem length_nullValue (cursor : JsonCursor) : (nullValue cursor).2.length ≤ cursor.length := by
  have hskip := length_skipWhitespace cursor
  unfold nullValue
  dsimp only
  split
  · exact (List.drop_sublist _ _).length_le.trans hskip
  · exact hskip

/-- Reading a token does not lengthen the text. -/
theorem length_tokenText {cursor rest : JsonCursor} {value : Bytes}
    (h : tokenText cursor = some (value, rest)) : rest.length ≤ cursor.length := by
  have hvalue := length_stringValue cursor
  unfold tokenText at h
  split at h
  · cases h
  · rename_i value' cursor' heq
    rw [heq] at hvalue
    split at h
    · cases h
      exact hvalue
    · cases h

/-- Passing over a value does not lengthen the text. -/
theorem length_skipValue {cursor rest : JsonCursor} (h : skipValue cursor = some rest) :
    rest.length ≤ cursor.length := by
  have hstring := length_stringValue cursor
  unfold skipValue at h
  split at h
  · rename_i value cursor' heq
    rw [heq] at hstring
    cases h
    exact hstring
  · rename_i cursor' heq
    rw [heq] at hstring
    have hnull := length_nullValue cursor'
    split at h
    · rename_i cursor'' hnull'
      rw [hnull'] at hnull
      cases h
      exact hnull.trans hstring
    · rename_i cursor'' hnull'
      rw [hnull'] at hnull
      have hinteger := length_integerValue cursor''
      split at h
      · rename_i value rest' hinteger'
        rw [hinteger'] at hinteger
        cases h
        exact hinteger.trans (hnull.trans hstring)
      · cases h

/-- Reading the value of a member does not lengthen the text. -/
theorem length_memberValue {now : Int64} {key : Bytes} {scan scan' : ResponseScan}
    {cursor rest : JsonCursor} (h : memberValue now key scan cursor = some (scan', rest)) :
    rest.length ≤ cursor.length := by
  have htext : ∀ f : Bytes × JsonCursor → ResponseScan × JsonCursor, (∀ p, (f p).2 = p.2) →
      (tokenText cursor).map f = some (scan', rest) → rest.length ≤ cursor.length := by
    intro f hf hmap
    obtain ⟨⟨value, cursor'⟩, hvalue, heq⟩ := Option.map_eq_some_iff.mp hmap
    have hrest := hf (value, cursor')
    rw [heq] at hrest
    obtain rfl : rest = cursor' := hrest
    exact length_tokenText hvalue
  unfold memberValue at h
  split at h
  · exact htext _ (fun _ => rfl) h
  split at h
  · exact htext _ (fun _ => rfl) h
  split at h
  · exact htext _ (fun _ => rfl) h
  split at h
  · have hinteger := length_integerValue cursor
    split at h
    · cases h
    rename_i value cursor' heq
    rw [heq] at hinteger
    split at h
    · cases h
    split at h
    · cases h
    · cases h
      exact hinteger
  split at h
  · have hnull := length_nullValue cursor
    split at h
    · cases h
    rename_i cursor' heq
    rw [heq] at hnull
    cases h
    exact hnull
  · obtain ⟨cursor', hskip, heq⟩ := Option.map_eq_some_iff.mp h
    cases heq
    exact length_skipValue hskip

/-- A key with its value takes at least the colon. -/
theorem length_member {now : Int64} {scan scan' : ResponseScan} {cursor rest : JsonCursor}
    (h : member now scan cursor = some (scan', rest)) : rest.length < cursor.length := by
  have hkey := length_stringValue cursor
  unfold member at h
  split at h
  · cases h
  rename_i key cursor' heq
  rw [heq] at hkey
  split at h
  · cases h
  rename_i cursor'' hconsume
  have hcolon := length_of_consume hconsume
  split at h
  · cases h
  have hvalue := length_memberValue h
  rw [Bool.toNat_true] at hcolon
  dsimp only at hkey
  omega

/-- The loop never runs out of the fuel that it is given. -/
theorem members_fuel (now : Int64) {fuel : ℕ} {scan : ResponseScan} {cursor : JsonCursor}
    (h : cursor.length < fuel) :
    members now (fuel + 1) scan cursor = members now fuel scan cursor := by
  induction fuel generalizing scan cursor with
  | zero => omega
  | succ fuel ih =>
    rw [members]
    conv_rhs => rw [members]
    cases hclose : consume closeBrace cursor with
    | mk found cursor₁ =>
      cases found with
      | true => rfl
      | false =>
        have h₁ := length_of_consume hclose
        dsimp only
        cases hmember : member now scan cursor₁ with
        | none => rfl
        | some next =>
          obtain ⟨scan', cursor₂⟩ := next
          have h₂ := length_member hmember
          dsimp only
          cases hcomma : consume (byteOf ',') cursor₂ with
          | mk found cursor₃ =>
            cases found with
            | true =>
              have h₃ := length_of_consume hcomma
              exact ih (by rw [Bool.toNat_true] at h₃; omega)
            | false => rfl

end Fuel

section Accepted

/-- What the loop of `parseTokenResponseImpl` knows of the values that it has taken. -/
structure Accepted (scan : ResponseScan) : Prop where
  access : scan.haveAccess = true → boundedText scan.output.accessToken maxTokenBytes = true
  refresh : scan.haveRefresh = true → boundedText scan.output.refreshToken maxTokenBytes = true
  type : scan.haveType = true → boundedText scan.output.tokenType maxTokenBytes = true
  expires : scan.haveExpires = true → 0 ≤ scan.output.expiresAtEpochSeconds

/-- A scan that has read nothing has accepted nothing wrong. -/
theorem accepted_empty : Accepted {} := by
  constructor <;> intro h <;> cases h

/-- A token that is read is within its bounds. -/
theorem tokenText_bounded {cursor rest : JsonCursor} {value : Bytes}
    (h : tokenText cursor = some (value, rest)) : boundedText value maxTokenBytes = true := by
  unfold tokenText at h
  split at h
  · cases h
  · split at h
    · cases h
      assumption
    · cases h

/-- The check before the expiry is added keeps it from wrapping. -/
theorem add_nonneg_of_checked {now value : Int64} (hnow : 0 ≤ now) (hvalue : ¬value ≤ 0)
    (hlimit : ¬Int64.maxValue - value < now) : 0 ≤ now + value := by
  have hzero : (0 : Int64).toInt = 0 := rfl
  have hbound := Int64.toInt_lt value
  simp only [Int64.le_iff_toInt_le, Int64.lt_iff_toInt_lt, hzero] at hnow hvalue hlimit ⊢
  have hsub : (Int64.maxValue - value).toInt = 2 ^ 63 - 1 - value.toInt := by
    rw [Financial.toInt_sub_of_fits] <;> rw [Int64.toInt_maxValue] <;> omega
  rw [hsub] at hlimit
  rw [Financial.toInt_add_of_fits] <;> omega

/-- The value of a member keeps what the scan has accepted. -/
theorem Accepted.memberValue {now : Int64} (hnow : 0 ≤ now) {key : Bytes}
    {scan scan' : ResponseScan} {cursor rest : JsonCursor} (haccepted : Accepted scan)
    (h : memberValue now key scan cursor = some (scan', rest)) : Accepted scan' := by
  unfold CTraderGate6Runtime.memberValue at h
  split at h
  · obtain ⟨⟨value, cursor'⟩, hvalue, heq⟩ := Option.map_eq_some_iff.mp h
    cases heq
    exact { haccepted with access := fun _ => tokenText_bounded hvalue }
  split at h
  · obtain ⟨⟨value, cursor'⟩, hvalue, heq⟩ := Option.map_eq_some_iff.mp h
    cases heq
    exact { haccepted with refresh := fun _ => tokenText_bounded hvalue }
  split at h
  · obtain ⟨⟨value, cursor'⟩, hvalue, heq⟩ := Option.map_eq_some_iff.mp h
    cases heq
    exact { haccepted with type := fun _ => tokenText_bounded hvalue }
  split at h
  · split at h
    · cases h
    split at h
    · cases h
    rename_i hvalue
    split at h
    · cases h
    rename_i hlimit
    cases h
    refine { haccepted with expires := fun _ => ?_ }
    exact add_nonneg_of_checked hnow (not_or.mp hvalue).1 hlimit
  split at h
  · split at h
    · cases h
    · cases h
      exact { haccepted with }
  · obtain ⟨cursor', hskip, heq⟩ := Option.map_eq_some_iff.mp h
    cases heq
    exact haccepted

/-- The members of an object keep what the scan has accepted. -/
theorem Accepted.members {now : Int64} (hnow : 0 ≤ now) {fuel : ℕ} {scan scan' : ResponseScan}
    {cursor rest : JsonCursor} (haccepted : Accepted scan)
    (h : members now fuel scan cursor = some (scan', rest)) : Accepted scan' := by
  induction fuel generalizing scan cursor with
  | zero => cases h
  | succ fuel ih =>
    rw [CTraderGate6Runtime.members] at h
    split at h
    · cases h
      exact haccepted
    split at h
    · cases h
    rename_i scan₁ cursor₁ hmember
    have haccepted₁ : Accepted scan₁ := by
      unfold member at hmember
      split at hmember
      · cases hmember
      split at hmember
      · cases hmember
      split at hmember
      · cases hmember
      · apply Accepted.memberValue hnow _ hmember
        exact { haccepted with }
    split at h
    · exact ih haccepted₁ h
    · split at h
      · cases h
        exact haccepted₁
      · cases h

/-- The envelope of an accepted response: texts that are bounded and not empty, the bearer type,
and an expiry after the epoch. -/
theorem parseTokenResponse_eq_some {now : Int64} (hnow : 0 ≤ now) {body : Bytes}
    {envelope : TokenEnvelope} (h : parseTokenResponse now body = some envelope) :
    boundedText envelope.accessToken maxTokenBytes = true ∧
      boundedText envelope.refreshToken maxTokenBytes = true ∧
      envelope.tokenType = ascii "bearer" ∧ 0 ≤ envelope.expiresAtEpochSeconds := by
  unfold parseTokenResponse at h
  split at h
  · cases h
  split at h
  · cases h
  rename_i scan cursor hmembers
  have haccepted := accepted_empty.members hnow hmembers
  split at h
  · rename_i hcomplete
    cases h
    simp only [Bool.and_eq_true, beq_iff_eq] at hcomplete
    obtain ⟨⟨⟨⟨⟨⟨-, haccess⟩, hrefresh⟩, htype⟩, hexpires⟩, -⟩, hbearer⟩ := hcomplete
    exact ⟨haccepted.access haccess, haccepted.refresh hrefresh, hbearer,
      haccepted.expires hexpires⟩
  · cases h

end Accepted

end CTraderGate6Runtime

end TradeBot

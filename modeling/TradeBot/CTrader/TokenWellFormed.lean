import TradeBot.CTrader.StoredToken
import TradeBot.Library.FlatJson

/-!
# Accepted token responses

The reader of both runtimes, with what they differ in as a parameter, and which of the responses
that it accepts are well-formed objects with the values that it extracts.
-/

namespace TradeBot

open Library CTraderGate6Runtime

section Readers

/-- The loop of `stringValue`, with the escapes that it knows. -/
def stringBodyWith (unescape : UInt8 → Option UInt8) (result : Bytes) :
    JsonCursor → Option Bytes × JsonCursor
  | [] => (none, [])
  | c :: rest =>
    if c = quote then (some result, rest)
    else if c < 0x20 then (none, rest)
    else if c ≠ backslash then stringBodyWith unescape (result ++ [c]) rest
    else
      match rest with
      | [] => (none, [])
      | escaped :: rest =>
        match unescape escaped with
        | none => (none, rest)
        | some c => stringBodyWith unescape (result ++ [c]) rest

/-- `stringValue` -/
def stringValueWith (unescape : UInt8 → Option UInt8) (cursor : JsonCursor) :
    Option Bytes × JsonCursor :=
  match skipWhitespace cursor with
  | [] => (none, [])
  | c :: rest => if c = quote then stringBodyWith unescape [] rest else (none, c :: rest)

/-- What the readers differ in: the escapes, how the value of an unknown key is read, and the keys
that leave no room for one more. -/
structure TokenReader where
  unescape : UInt8 → Option UInt8
  skipValue : JsonCursor → Option JsonCursor
  full : List Bytes → Bool

namespace TokenReader

variable (reader : TokenReader)

/-- A text value of the response. -/
def tokenText (cursor : JsonCursor) : Option (Bytes × JsonCursor) :=
  match stringValueWith reader.unescape cursor with
  | (none, _) => none
  | (some value, cursor) => if boundedText value maxTokenBytes then some (value, cursor) else none

/-- The value of a key, with the clock's seconds. -/
def memberValue (now : Int64) (key : Bytes) (scan : ResponseScan) (cursor : JsonCursor) :
    Option (ResponseScan × JsonCursor) :=
  if key = ascii "accessToken" then
    (reader.tokenText cursor).map fun (value, cursor) =>
      ({ scan with
        output := { scan.output with accessToken := value }
        haveAccess := true }, cursor)
  else if key = ascii "refreshToken" then
    (reader.tokenText cursor).map fun (value, cursor) =>
      ({ scan with
        output := { scan.output with refreshToken := value }
        haveRefresh := true }, cursor)
  else if key = ascii "tokenType" then
    (reader.tokenText cursor).map fun (value, cursor) =>
      ({ scan with
        output := { scan.output with tokenType := value }
        haveType := true }, cursor)
  else if key = ascii "expiresIn" then
    match integerValue cursor with
    | (none, _) => none
    | (some value, cursor) =>
      if value ≤ 0 ∨ maxExpiresIn < value then none
      else if Int64.maxValue - value < now then none
      else
        some ({ scan with
          output := { scan.output with expiresAtEpochSeconds := now + value }
          haveExpires := true }, cursor)
  else if key = ascii "errorCode" then
    match nullValue cursor with
    | (false, _) => none
    | (true, cursor) => some ({ scan with errorWasNull := true }, cursor)
  else (reader.skipValue cursor).map fun cursor => (scan, cursor)

/-- A key with its value. -/
def member (now : Int64) (scan : ResponseScan) (cursor : JsonCursor) :
    Option (ResponseScan × JsonCursor) :=
  match stringValueWith reader.unescape cursor with
  | (none, _) => none
  | (some key, cursor) =>
    match consume (byteOf ':') cursor with
    | (false, _) => none
    | (true, cursor) =>
      if reader.full scan.keys then none
      else if key ∈ scan.keys then none
      else reader.memberValue now key { scan with keys := scan.keys ++ [key] } cursor

/-- The loop of `parseTokenResponse`, up to the closing brace. -/
def members (now : Int64) : ℕ → ResponseScan → JsonCursor → Option (ResponseScan × JsonCursor)
  | 0, _, _ => none
  | fuel + 1, scan, cursor =>
    match consume closeBrace cursor with
    | (true, cursor) => some (scan, cursor)
    | (false, cursor) =>
      match reader.member now scan cursor with
      | none => none
      | some (scan, cursor) =>
        match consume (byteOf ',') cursor with
        | (true, cursor) => members now fuel scan cursor
        | (false, cursor) =>
          match consume closeBrace cursor with
          | (true, cursor) => some (scan, cursor)
          | (false, _) => none

/-- `parseTokenResponse`, with the clock's seconds. -/
def parse (now : Int64) (body : Bytes) : Option CTraderGate6Runtime.TokenEnvelope :=
  match consume openBrace body with
  | (false, _) => none
  | (true, cursor) =>
    match reader.members now (body.length + 1) {} cursor with
    | none => none
    | some (scan, cursor) =>
      if atEnd cursor && scan.haveAccess && scan.haveRefresh && scan.haveType &&
          scan.haveExpires && scan.errorWasNull && scan.output.tokenType == ascii "bearer" then
        some scan.output
      else none

end TokenReader

end Readers

namespace CTraderGate6Runtime

/-- The reader of Gate 6. -/
def tokenReader : TokenReader where
  unescape := unescape
  skipValue := skipValue
  full _ := false

end CTraderGate6Runtime

namespace CTraderGate7Runtime

/-- The escapes that `stringValue` knows. -/
def unescape (escaped : UInt8) : Option UInt8 :=
  if escaped = quote ∨ escaped = backslash ∨ escaped = byteOf '/' then some escaped
  else if escaped = byteOf 'n' then some 0x0a
  else if escaped = byteOf 'r' then some 0x0d
  else if escaped = byteOf 't' then some 0x09
  else none

/-- `stringValue` -/
def stringValue (cursor : JsonCursor) : Option Bytes × JsonCursor :=
  stringValueWith unescape cursor

/-- The value of a key that `parseTokenResponse` does not know. -/
def skipValue (cursor : JsonCursor) : Option JsonCursor :=
  match nullValue cursor with
  | (true, cursor) => some cursor
  | (false, cursor) =>
    match stringValue cursor with
    | (some _, cursor) => some cursor
    | (none, cursor) =>
      match integerValue cursor with
      | (some _, cursor) => some cursor
      | (none, _) => none

/-- The reader of Gate 7, with an array for eight keys. -/
def tokenReader : TokenReader where
  unescape := unescape
  skipValue := skipValue
  full keys := keys.length == 8

/-- `parseTokenResponse`, with the clock's seconds. -/
def parseTokenResponse (now : Int64) (body : Bytes) : Option TokenEnvelope :=
  (tokenReader.parse now body).map fun output =>
    { accessToken := output.accessToken
      refreshToken := output.refreshToken
      tokenType := output.tokenType
      expiresAtEpochSeconds := output.expiresAtEpochSeconds
      scope := oauthScope }

end CTraderGate7Runtime

section Cursor

variable {escapes : UInt8 → Option UInt8} {cursor rest : JsonCursor}

/-- What `skipWhitespace` passes over is blank. -/
theorem blanks_skipWhitespace (cursor : JsonCursor) :
    FlatJson.Blanks cursor (skipWhitespace cursor) := by
  induction cursor with
  | nil => exact FlatJson.Blanks.done []
  | cons c cursor ih =>
    unfold skipWhitespace at ih ⊢
    rw [List.dropWhile_cons]
    split
    · next hblank => exact FlatJson.Blanks.skip hblank ih
    · exact FlatJson.Blanks.done _

/-- A symbol that is there is the first one behind the blanks. -/
theorem skip_of_consume {expected : UInt8} (h : consume expected cursor = (true, rest)) :
    skipWhitespace cursor = expected :: rest := by
  unfold consume at h
  split at h
  · cases h
  · next hskip =>
    split at h
    · next heq =>
      cases h
      rw [hskip, heq]
    · cases h

/-- What `consume` passes over before the expected character is blank. -/
theorem blanks_of_consume {expected : UInt8} (h : consume expected cursor = (true, rest)) :
    FlatJson.Blanks cursor (expected :: rest) :=
  skip_of_consume h ▸ blanks_skipWhitespace cursor

/-- A symbol that is not there leaves the cursor behind the blanks. -/
theorem skip_of_not_consume {expected : UInt8} (h : consume expected cursor = (false, rest)) :
    skipWhitespace cursor = rest := by
  unfold consume at h
  split at h
  · next hskip =>
    cases h
    exact hskip
  · next hskip =>
    split at h
    · cases h
    · cases h
      exact hskip

/-- A string that is read ends with its quotation mark. -/
theorem characters_of_stringBody {result value : Bytes}
    (h : stringBodyWith escapes result cursor = (some value, rest)) :
    ∃ tail, value = result ++ tail ∧ FlatJson.Characters escapes cursor tail rest := by
  fun_induction stringBodyWith escapes result cursor with
  | case1 => cases h
  | case2 result rest' =>
    cases h
    exact ⟨[], (List.append_nil _).symm, FlatJson.Characters.close _⟩
  | case3 => cases h
  | case4 result c rest' hquote hcontrol hbackslash ih =>
    obtain ⟨tail, rfl, htail⟩ := ih h
    exact ⟨c :: tail, by rw [List.append_assoc, List.singleton_append],
      FlatJson.Characters.plain hcontrol hquote hbackslash htail⟩
  | case5 => cases h
  | case6 => cases h
  | case7 result c hquote hcontrol hbackslash escaped rest' d hescape ih =>
    obtain ⟨tail, rfl, htail⟩ := ih h
    obtain rfl : c = FlatJson.backslash := not_not.mp hbackslash
    exact ⟨d :: tail, by rw [List.append_assoc, List.singleton_append],
      FlatJson.Characters.escaped hescape htail⟩

/-- Without a slip only the end of the text keeps a string from being read. -/
theorem rest_of_stringBody {result : Bytes}
    (hclean : FlatJson.clean escapes .string cursor = true)
    (h : stringBodyWith escapes result cursor = (none, rest)) : rest = [] := by
  fun_induction stringBodyWith escapes result cursor with
  | case1 =>
    cases h
    rfl
  | case2 => cases h
  | case3 result c rest' hquote hcontrol =>
    rw [FlatJson.clean_control hcontrol hquote] at hclean
    cases hclean
  | case4 result c rest' hquote hcontrol hbackslash ih =>
    rw [FlatJson.clean_plain hcontrol hquote hbackslash] at hclean
    exact ih hclean h
  | case5 =>
    cases h
    rfl
  | case6 result c hquote hcontrol hbackslash escaped rest' hescape =>
    obtain rfl : c = FlatJson.backslash := not_not.mp hbackslash
    rw [FlatJson.clean_escape, hescape] at hclean
    cases hclean
  | case7 result c hquote hcontrol hbackslash escaped rest' d hescape ih =>
    obtain rfl : c = FlatJson.backslash := not_not.mp hbackslash
    rw [FlatJson.clean_escape, Bool.and_eq_true] at hclean
    exact ih hclean.2 h

/-- What `stringValue` reads is a string between quotes. -/
theorem text_of_stringValue {value : Bytes}
    (h : stringValueWith escapes cursor = (some value, rest)) :
    ∃ text, FlatJson.Blanks cursor (FlatJson.quote :: text) ∧
      FlatJson.Characters escapes text value rest := by
  have hblanks := blanks_skipWhitespace cursor
  unfold stringValueWith at h
  split at h
  · cases h
  · next c text hskip =>
    rw [hskip] at hblanks
    split at h
    · next hquote =>
      obtain rfl : c = FlatJson.quote := hquote
      obtain ⟨tail, rfl, htail⟩ := characters_of_stringBody h
      exact ⟨text, hblanks, htail⟩
    · cases h

/-- Without a slip a failed string leaves the cursor at the end or behind the blanks. -/
theorem rest_of_stringValue (hclean : FlatJson.clean escapes .between cursor = true)
    (h : stringValueWith escapes cursor = (none, rest)) :
    rest = [] ∨ FlatJson.Blanks cursor rest := by
  have hblanks := blanks_skipWhitespace cursor
  unfold stringValueWith at h
  split at h
  · cases h
    exact Or.inl rfl
  · next c text hskip =>
    rw [hskip] at hblanks
    split at h
    · next hquote =>
      obtain rfl : c = FlatJson.quote := hquote
      rw [FlatJson.clean_blanks hblanks, FlatJson.clean_quote (by decide)] at hclean
      exact Or.inl (rest_of_stringBody hclean h)
    · cases h
      exact Or.inr hblanks

/-- Where there is no null, `nullValue` has passed over blanks only. -/
theorem blanks_of_nullValue (h : nullValue cursor = (false, rest)) :
    FlatJson.Blanks cursor rest := by
  have hblanks := blanks_skipWhitespace cursor
  unfold nullValue at h
  dsimp only at h
  split at h
  · cases h
  · cases h
    exact hblanks

/-- What `nullValue` reads is the word null. -/
theorem reads_of_nullValue (h : nullValue cursor = (true, rest)) :
    ∃ text, FlatJson.Blanks cursor text ∧ FlatJson.Reads escapes text .null rest := by
  have hblanks := blanks_skipWhitespace cursor
  unfold nullValue at h
  dsimp only at h
  split at h
  · next hnull =>
    cases h
    have htext : skipWhitespace cursor = ascii "null" ++ (skipWhitespace cursor).drop 4 := by
      rw [← hnull, List.take_append_drop]
    refine ⟨_, hblanks, ?_⟩
    rw [htext]
    exact FlatJson.Reads.null _
  · cases h

/-- The value of digits is that of the source's conversion. -/
theorem decimal_eq {digits : Bytes} (h : ∀ c ∈ digits, isDecimalDigit c = true) :
    decimal digits = decimalValue digits := by
  unfold decimal decimalValue
  generalize 0 = value
  induction digits generalizing value with
  | nil => rfl
  | cons c digits ih =>
    have hdigit := isDecimalDigit_iff.mp (h c List.mem_cons_self)
    have hle : byteOf '0' ≤ c := hdigit.1
    rw [List.foldl_cons, List.foldl_cons, UInt8.toNat_sub_of_le _ _ hle]
    exact ih (fun d hd => h d (List.mem_cons_of_mem c hd)) _

/-- `from_chars` reads at least one digit, and the number that the digits say. -/
theorem fromChars_eq_some {negative : Bool} {digits : Bytes} {value : Int64}
    (h : fromChars negative digits = some value) :
    digits ≠ [] ∧ value.toInt = if negative then -(decimal digits : ℤ) else decimal digits := by
  unfold fromChars at h
  dsimp only at h
  generalize (if negative then -(decimal digits : ℤ) else decimal digits) = number at h ⊢
  split at h
  · cases h
  · next hsome =>
    split at h
    · cases h
    · next hfits =>
      rw [not_or, not_lt, not_lt] at hfits
      cases h
      refine ⟨fun hnil => hsome (hnil ▸ rfl), ?_⟩
      exact Int64.toInt_ofInt_of_le hfits.1 (Int.lt_of_le_of_lt hfits.2 (by decide))

/-- Without a slip digits that are read have no leading zeros. -/
theorem plainNumeral_of_fromChars {negative : Bool} {unsigned : Bytes} {value : Int64}
    (hclean : FlatJson.clean escapes .between unsigned = true)
    (h : fromChars negative (unsigned.takeWhile isDecimalDigit) = some value) :
    ∃ n : ℕ, FlatJson.PlainNumeral (unsigned.takeWhile isDecimalDigit) n ∧
      value.toInt = if negative then -(n : ℤ) else n := by
  obtain ⟨hsome, hint⟩ := fromChars_eq_some h
  have hdigits : ∀ c ∈ unsigned.takeWhile isDecimalDigit, isDecimalDigit c = true :=
    fun c hc => List.mem_takeWhile_imp hc
  rw [← List.takeWhile_append_dropWhile (p := isDecimalDigit) (l := unsigned),
    FlatJson.clean_numeral hsome hdigits (head?_dropWhile_stops isDecimalDigit unsigned),
    Bool.and_eq_true, decide_eq_true_iff] at hclean
  exact ⟨decimal (unsigned.takeWhile isDecimalDigit),
    ⟨⟨hsome, hdigits, (decimal_eq hdigits).symm⟩, hclean.1⟩, hint⟩

/-- What `integerValue` reads of a clean text is an integer as the grammar has it. -/
theorem reads_of_integerValue {value : Int64}
    (hclean : FlatJson.clean escapes .between cursor = true)
    (h : integerValue cursor = (some value, rest)) :
    ∃ text, FlatJson.Blanks cursor text ∧
      FlatJson.Reads escapes text (.integer value.toInt) rest := by
  have hblanks := blanks_skipWhitespace cursor
  rw [FlatJson.clean_blanks hblanks] at hclean
  refine ⟨_, hblanks, ?_⟩
  have hdigit : isDigit = isDecimalDigit := rfl
  unfold integerValue at h
  rw [hdigit] at h
  dsimp only at h
  generalize skipWhitespace cursor = text at h hclean
  rw [Prod.mk.injEq] at h
  obtain ⟨hvalue, rfl⟩ := h
  split at hvalue
  · next hminus =>
    obtain ⟨unsigned, rfl⟩ := List.head?_eq_some_iff.mp (beq_iff_eq.mp hminus)
    rw [if_pos hminus, List.tail_cons]
    rw [hminus, List.tail_cons] at hvalue
    rw [FlatJson.clean_other (by decide) (by decide) (by decide) (by decide)] at hclean
    obtain ⟨n, hnumeral, hint⟩ := plainNumeral_of_fromChars hclean hvalue
    rw [hint, if_pos rfl]
    have hreads : FlatJson.Reads escapes _ _ _ :=
      FlatJson.Reads.negative (unsigned.dropWhile isDecimalDigit) hnumeral
    rwa [List.takeWhile_append_dropWhile] at hreads
  · next hminus =>
    rw [if_neg hminus]
    rw [Bool.not_eq_true] at hminus
    rw [hminus] at hvalue
    obtain ⟨n, hnumeral, hint⟩ := plainNumeral_of_fromChars hclean hvalue
    rw [hint, if_neg (by decide)]
    have hreads : FlatJson.Reads escapes _ _ _ :=
      FlatJson.Reads.natural (text.dropWhile isDecimalDigit) hnumeral
    rwa [List.takeWhile_append_dropWhile] at hreads

end Cursor

section Extraction

/-- The values that a reader takes from members. -/
structure Extracted (now : Int64) (members : List (Bytes × FlatJson.Value))
    (scan : ResponseScan) : Prop where
  keys : scan.keys = members.map Prod.fst
  nodup : scan.keys.Nodup
  access : scan.haveAccess = true →
    (ascii "accessToken", .text scan.output.accessToken) ∈ members
  refresh : scan.haveRefresh = true →
    (ascii "refreshToken", .text scan.output.refreshToken) ∈ members
  type : scan.haveType = true → (ascii "tokenType", .text scan.output.tokenType) ∈ members
  expires : scan.haveExpires = true → ∃ seconds : ℤ,
    (ascii "expiresIn", .integer seconds) ∈ members ∧
      scan.output.expiresAtEpochSeconds.toInt = now.toInt + seconds
  error : scan.errorWasNull = true → (ascii "errorCode", .null) ∈ members

/-- Nothing has been extracted from no members. -/
theorem extracted_nil (now : Int64) : Extracted now [] {} := by
  constructor <;> simp

/-- A member with a new key leaves what has been taken. -/
theorem Extracted.push {now : Int64} {members : List (Bytes × FlatJson.Value)}
    {scan : ResponseScan} {key : Bytes} (h : Extracted now members scan) (hnew : key ∉ scan.keys)
    (value : FlatJson.Value) :
    Extracted now (members ++ [(key, value)]) { scan with keys := scan.keys ++ [key] } where
  keys := by rw [List.map_append, ← h.keys]; rfl
  nodup := List.nodup_append.mpr ⟨h.nodup, List.nodup_singleton key, by
    rintro a ha b hb rfl
    exact hnew (List.mem_singleton.mp hb ▸ ha)⟩
  access haccess := List.mem_append_left _ (h.access haccess)
  refresh hrefresh := List.mem_append_left _ (h.refresh hrefresh)
  type htype := List.mem_append_left _ (h.type htype)
  expires hexpires := by
    obtain ⟨seconds, hmem, hadd⟩ := h.expires hexpires
    exact ⟨seconds, List.mem_append_left _ hmem, hadd⟩
  error herror := List.mem_append_left _ (h.error herror)

/-- The checks before the expiry is added keep it from wrapping. -/
theorem toInt_add_of_checked {now value : Int64} (hvalue : ¬value ≤ 0)
    (hlimit : ¬Int64.maxValue - value < now) : (now + value).toInt = now.toInt + value.toInt := by
  have hzero : (0 : Int64).toInt = 0 := rfl
  have hbound := Int64.toInt_lt value
  have hlow := Int64.le_toInt now
  simp only [Int64.le_iff_toInt_le, Int64.lt_iff_toInt_lt, hzero] at hvalue hlimit
  have hsub : (Int64.maxValue - value).toInt = 2 ^ 63 - 1 - value.toInt := by
    rw [Financial.toInt_sub_of_fits] <;> rw [Int64.toInt_maxValue] <;> omega
  rw [hsub] at hlimit
  rw [Financial.toInt_add_of_fits] <;> omega

namespace TokenReader

variable {reader : TokenReader}

/-- Without a slip the value of an unknown key is read as a value. -/
def Skips (reader : TokenReader) : Prop :=
  ∀ cursor rest, FlatJson.clean reader.unescape .between cursor = true →
    reader.skipValue cursor = some rest →
    ∃ text value, FlatJson.Blanks cursor text ∧ FlatJson.Reads reader.unescape text value rest

/-- What `tokenText` reads is a text as the grammar has it. -/
theorem reads_of_tokenText {cursor rest : JsonCursor} {value : Bytes}
    (h : reader.tokenText cursor = some (value, rest)) :
    ∃ text, FlatJson.Blanks cursor text ∧
      FlatJson.Reads reader.unescape text (.text value) rest := by
  unfold tokenText at h
  split at h
  · cases h
  · next hvalue =>
    split at h
    · cases h
      obtain ⟨text, hblanks, hcharacters⟩ := text_of_stringValue hvalue
      exact ⟨_, hblanks, FlatJson.Reads.text hcharacters⟩
    · cases h

/-- The value of a key is read, and taken when the key is one of the response's. -/
theorem memberValue_spec (hskips : reader.Skips) {now : Int64} {key : Bytes}
    {scan scan' : ResponseScan} {cursor rest : JsonCursor}
    {members : List (Bytes × FlatJson.Value)} (hextracted : Extracted now members scan)
    (hnew : key ∉ scan.keys) (hclean : FlatJson.clean reader.unescape .between cursor = true)
    (h : reader.memberValue now key { scan with keys := scan.keys ++ [key] } cursor =
      some (scan', rest)) :
    ∃ text value, FlatJson.Blanks cursor text ∧
      FlatJson.Reads reader.unescape text value rest ∧
      Extracted now (members ++ [(key, value)]) scan' := by
  have hlast (value : FlatJson.Value) : (key, value) ∈ members ++ [(key, value)] :=
    List.mem_append_right _ (List.mem_singleton_self _)
  unfold memberValue at h
  split at h
  · next hkey =>
    obtain ⟨⟨value, _⟩, hvalue, heq⟩ := Option.map_eq_some_iff.mp h
    cases heq
    obtain ⟨text, hblanks, hreads⟩ := reads_of_tokenText hvalue
    refine ⟨text, .text value, hblanks, hreads, ?_⟩
    exact { hextracted.push hnew (.text value) with access := fun _ => hkey ▸ hlast _ }
  split at h
  · next hkey =>
    obtain ⟨⟨value, _⟩, hvalue, heq⟩ := Option.map_eq_some_iff.mp h
    cases heq
    obtain ⟨text, hblanks, hreads⟩ := reads_of_tokenText hvalue
    refine ⟨text, .text value, hblanks, hreads, ?_⟩
    exact { hextracted.push hnew (.text value) with refresh := fun _ => hkey ▸ hlast _ }
  split at h
  · next hkey =>
    obtain ⟨⟨value, _⟩, hvalue, heq⟩ := Option.map_eq_some_iff.mp h
    cases heq
    obtain ⟨text, hblanks, hreads⟩ := reads_of_tokenText hvalue
    refine ⟨text, .text value, hblanks, hreads, ?_⟩
    exact { hextracted.push hnew (.text value) with type := fun _ => hkey ▸ hlast _ }
  split at h
  · next hkey =>
    split at h
    · cases h
    next value _ hvalue =>
    split at h
    · cases h
    next hrange =>
    split at h
    · cases h
    next hlimit =>
    cases h
    obtain ⟨text, hblanks, hreads⟩ := reads_of_integerValue hclean hvalue
    refine ⟨text, .integer value.toInt, hblanks, hreads, ?_⟩
    have hadd := toInt_add_of_checked (not_or.mp hrange).1 hlimit
    exact { hextracted.push hnew (.integer value.toInt) with
      expires := fun _ => ⟨value.toInt, hkey ▸ hlast _, hadd⟩ }
  split at h
  · next hkey =>
    split at h
    · cases h
    next hnull =>
    cases h
    obtain ⟨text, hblanks, hreads⟩ := reads_of_nullValue hnull
    refine ⟨text, .null, hblanks, hreads, ?_⟩
    exact { hextracted.push hnew .null with error := fun _ => hkey ▸ hlast _ }
  · obtain ⟨_, hskip, heq⟩ := Option.map_eq_some_iff.mp h
    cases heq
    obtain ⟨text, value, hblanks, hreads⟩ := hskips cursor rest hclean hskip
    exact ⟨text, value, hblanks, hreads, hextracted.push hnew value⟩

/-- A member that is read without a slip is a member of the grammar. -/
theorem member_spec (hskips : reader.Skips) {now : Int64} {scan scan' : ResponseScan}
    {cursor rest : JsonCursor} {members : List (Bytes × FlatJson.Value)}
    (hextracted : Extracted now members scan)
    (hclean : FlatJson.clean reader.unescape .between cursor = true)
    (h : reader.member now scan cursor = some (scan', rest)) :
    ∃ member, FlatJson.Member reader.unescape cursor member rest ∧
      Extracted now (members ++ [member]) scan' := by
  unfold member at h
  split at h
  · cases h
  next key _ hstring =>
  split at h
  · cases h
  next hcolon =>
  split at h
  · cases h
  split at h
  · cases h
  next hnew =>
  obtain ⟨text, hbefore, hkey⟩ := text_of_stringValue hstring
  have hblanks : FlatJson.Blanks _ (FlatJson.colon :: _) := blanks_of_consume hcolon
  rw [FlatJson.clean_blanks hbefore, FlatJson.clean_quote (by decide),
    FlatJson.clean_characters hkey, FlatJson.clean_blanks hblanks,
    FlatJson.clean_other (by decide) (by decide) (by decide) (by decide)] at hclean
  obtain ⟨valueText, value, hvalue, hreads, hextracted'⟩ :=
    memberValue_spec hskips hextracted hnew hclean h
  exact ⟨(key, value), FlatJson.Member.intro hbefore hkey hblanks hvalue hreads
    (FlatJson.Blanks.done rest), hextracted'⟩

/-- Members that are read without a slip are members of the grammar. -/
theorem members_spec (hskips : reader.Skips) {now : Int64} {fuel : ℕ}
    {scan scan' : ResponseScan} {cursor rest : JsonCursor}
    {before : List (Bytes × FlatJson.Value)} (hextracted : Extracted now before scan)
    (hclean : FlatJson.clean reader.unescape .between cursor = true)
    (hopen : (skipWhitespace cursor).head? ≠ some closeBrace)
    (h : reader.members now fuel scan cursor = some (scan', rest)) :
    ∃ members, FlatJson.Members reader.unescape cursor members rest ∧
      Extracted now (before ++ members) scan' := by
  induction fuel generalizing scan cursor before with
  | zero => cases h
  | succ fuel ih =>
    rw [members] at h
    split at h
    · next hclose =>
      rw [skip_of_consume hclose] at hopen
      exact absurd rfl hopen
    next cursor₁ hclose =>
    have hbefore := blanks_skipWhitespace cursor
    rw [skip_of_not_consume hclose] at hbefore
    rw [FlatJson.clean_blanks hbefore] at hclean
    split at h
    · cases h
    next scan₁ cursor₂ hreturned =>
    obtain ⟨member, hmember, hextracted₁⟩ := member_spec hskips hextracted hclean hreturned
    split at h
    · next next hcomma =>
      have hafter : FlatJson.Blanks _ (FlatJson.comma :: _) := blanks_of_consume hcomma
      have hmember₁ := hmember.blanks (FlatJson.Blanks.done cursor₁) hafter
      rw [FlatJson.clean_member hmember₁ (FlatJson.head_other (by decide) next),
        FlatJson.clean_comma (by decide), Bool.and_eq_true, bne_iff_ne] at hclean
      obtain ⟨members, hmembers, hextracted'⟩ := ih hextracted₁ hclean.2 hclean.1 h
      refine ⟨member :: members, FlatJson.Members.more (hmember.blanks hbefore hafter) hmembers, ?_⟩
      rwa [List.append_assoc] at hextracted'
    next cursor₃ hcomma =>
    have hbetween := blanks_skipWhitespace cursor₂
    rw [skip_of_not_consume hcomma] at hbetween
    split at h
    · next hbrace =>
      cases h
      have hafter : FlatJson.Blanks _ (FlatJson.closeBrace :: _) := blanks_of_consume hbrace
      exact ⟨[member],
        FlatJson.Members.last (hmember.blanks hbefore (hbetween.trans hafter)), hextracted₁⟩
    · cases h

end TokenReader

end Extraction

section WellFormed

/-- A body is one object with distinct keys and no error, and these are its values: the tokens,
and the expiry of its lifetime. -/
structure WellFormedResponse (escapes : UInt8 → Option UInt8) (now : Int64) (body : Bytes)
    (accessToken refreshToken tokenType : Bytes) (expiresAt : Int64)
    (members : List (Bytes × FlatJson.Value)) : Prop where
  object : FlatJson.Object escapes body members
  distinct : (members.map Prod.fst).Nodup
  errorCode : (ascii "errorCode", .null) ∈ members
  access : (ascii "accessToken", .text accessToken) ∈ members
  refresh : (ascii "refreshToken", .text refreshToken) ∈ members
  type : (ascii "tokenType", .text tokenType) ∈ members
  expires : ∃ seconds : ℤ, (ascii "expiresIn", .integer seconds) ∈ members ∧
    expiresAt.toInt = now.toInt + seconds

/-- What a reader accepts is well formed when there is no slip in it. -/
theorem TokenReader.parse_wellFormed {reader : TokenReader} (hskips : reader.Skips) {now : Int64}
    {body : Bytes} {envelope : CTraderGate6Runtime.TokenEnvelope}
    (hclean : FlatJson.clean reader.unescape .between body = true)
    (h : reader.parse now body = some envelope) :
    ∃ members, WellFormedResponse reader.unescape now body envelope.accessToken
      envelope.refreshToken envelope.tokenType envelope.expiresAtEpochSeconds members := by
  unfold parse at h
  split at h
  · cases h
  next inner hopen =>
  split at h
  · cases h
  next scan after hmembers =>
  split at h
  · next hcomplete =>
    cases h
    simp only [Bool.and_eq_true, beq_iff_eq] at hcomplete
    obtain ⟨⟨⟨⟨⟨⟨hend, haccess⟩, hrefresh⟩, htype⟩, hexpires⟩, herror⟩, -⟩ := hcomplete
    have hbefore : FlatJson.Blanks _ (FlatJson.openBrace :: _) := blanks_of_consume hopen
    have hafter := blanks_skipWhitespace after
    rw [List.isEmpty_iff.mp hend] at hafter
    rw [FlatJson.clean_blanks hbefore,
      FlatJson.clean_other (by decide) (by decide) (by decide) (by decide)] at hclean
    have hinner : (skipWhitespace inner).head? ≠ some closeBrace := by
      intro hhead
      obtain ⟨rest, hskip⟩ := List.head?_eq_some_iff.mp hhead
      have hclose : consume closeBrace inner = (true, rest) := by
        rw [consume, hskip]
        exact if_pos rfl
      rw [members, hclose] at hmembers
      cases hmembers
      cases haccess
    obtain ⟨members, hmembers, hextracted⟩ :=
      members_spec hskips (extracted_nil now) hclean hinner hmembers
    rw [List.nil_append] at hextracted
    exact ⟨members, {
      object := FlatJson.Object.filled hbefore hmembers hafter
      distinct := hextracted.keys ▸ hextracted.nodup
      errorCode := hextracted.error herror
      access := hextracted.access haccess
      refresh := hextracted.refresh hrefresh
      type := hextracted.type htype
      expires := hextracted.expires hexpires }⟩
  · cases h

/-- For what a reader accepts, being well formed is having no slip. -/
theorem TokenReader.wellFormed_iff {reader : TokenReader} (hskips : reader.Skips) {now : Int64}
    {body : Bytes} {envelope : CTraderGate6Runtime.TokenEnvelope}
    (h : reader.parse now body = some envelope) :
    (∃ members, WellFormedResponse reader.unescape now body envelope.accessToken
      envelope.refreshToken envelope.tokenType envelope.expiresAtEpochSeconds members) ↔
    FlatJson.clean reader.unescape .between body = true :=
  ⟨fun ⟨_, hwellFormed⟩ => hwellFormed.object.clean, fun hclean => parse_wellFormed hskips hclean h⟩

end WellFormed

section Gates

/-- The reader of the other stage reads the body of a string by its own escapes. -/
theorem stringBody_eq (result : Bytes) (cursor : JsonCursor) :
    CTraderGate6Runtime.stringBody result cursor =
      stringBodyWith CTraderGate6Runtime.unescape result cursor := by
  fun_induction stringBodyWith CTraderGate6Runtime.unescape result cursor <;>
    rw [CTraderGate6Runtime.stringBody.eq_def] <;> simp_all

/-- The reader of the other stage reads a string by its own escapes. -/
theorem stringValue_eq (cursor : JsonCursor) : CTraderGate6Runtime.stringValue cursor =
    stringValueWith CTraderGate6Runtime.unescape cursor := by
  unfold CTraderGate6Runtime.stringValue
  simp only [stringBody_eq]
  rfl

/-- The reader of the other stage reads members as the shared one does. -/
theorem members_eq (now : Int64) (fuel : ℕ) (scan : ResponseScan) (cursor : JsonCursor) :
    CTraderGate6Runtime.members now fuel scan cursor =
      CTraderGate6Runtime.tokenReader.members now fuel scan cursor := by
  have htext : CTraderGate6Runtime.tokenText = CTraderGate6Runtime.tokenReader.tokenText := by
    funext cursor
    rw [CTraderGate6Runtime.tokenText, stringValue_eq]
    rfl
  have hvalue : CTraderGate6Runtime.memberValue = CTraderGate6Runtime.tokenReader.memberValue := by
    funext now key scan cursor
    rw [CTraderGate6Runtime.memberValue, htext]
    rfl
  have hmember : CTraderGate6Runtime.member = CTraderGate6Runtime.tokenReader.member := by
    funext now scan cursor
    have hfull (keys : List Bytes) : CTraderGate6Runtime.tokenReader.full keys = false := rfl
    rw [CTraderGate6Runtime.member, stringValue_eq, hvalue, TokenReader.member]
    simp only [hfull, Bool.false_eq_true, if_false]
    rfl
  induction fuel generalizing scan cursor with
  | zero => rfl
  | succ fuel ih =>
    rw [CTraderGate6Runtime.members, hmember]
    simp only [ih]
    rfl

/-- The reader of Gate 6 is the one with its escapes and its order. -/
theorem parseTokenResponse_eq (now : Int64) (body : Bytes) :
    CTraderGate6Runtime.parseTokenResponse now body =
      CTraderGate6Runtime.tokenReader.parse now body := by
  unfold CTraderGate6Runtime.parseTokenResponse
  simp only [members_eq]
  rfl

/-- Gate 6 tries the string first. A string that is broken off leaves nothing to null and to the
integer, and any other text is left to them from its beginning. -/
theorem skips_gate6 : CTraderGate6Runtime.tokenReader.Skips := by
  intro cursor rest hclean h
  change CTraderGate6Runtime.skipValue cursor = some rest at h
  unfold CTraderGate6Runtime.skipValue at h
  rw [stringValue_eq] at h
  split at h
  · next value _ hstring =>
    cases h
    obtain ⟨text, hblanks, hcharacters⟩ := text_of_stringValue hstring
    exact ⟨_, .text value, hblanks, FlatJson.Reads.text hcharacters⟩
  next cursor₁ hstring =>
  rcases rest_of_stringValue hclean hstring with rfl | hbefore
  · cases h
  rw [FlatJson.clean_blanks hbefore] at hclean
  split at h
  · next hnull =>
    cases h
    obtain ⟨text, hblanks, hreads⟩ := reads_of_nullValue hnull
    exact ⟨text, .null, hbefore.trans hblanks, hreads⟩
  next cursor₂ hnull =>
  have hbetween := blanks_of_nullValue hnull
  rw [FlatJson.clean_blanks hbetween] at hclean
  split at h
  · next value _ hinteger =>
    cases h
    obtain ⟨text, hblanks, hreads⟩ := reads_of_integerValue hclean hinteger
    exact ⟨text, .integer value.toInt, hbefore.trans (hbetween.trans hblanks), hreads⟩
  · cases h

/-- Gate 7 tries null first, and leaves the cursor before a text that is not null. -/
theorem skips_gate7 : CTraderGate7Runtime.tokenReader.Skips := by
  intro cursor rest hclean h
  change CTraderGate7Runtime.skipValue cursor = some rest at h
  unfold CTraderGate7Runtime.skipValue CTraderGate7Runtime.stringValue at h
  split at h
  · next hnull =>
    cases h
    obtain ⟨text, hblanks, hreads⟩ := reads_of_nullValue hnull
    exact ⟨text, .null, hblanks, hreads⟩
  next cursor₁ hnull =>
  have hbefore := blanks_of_nullValue hnull
  rw [FlatJson.clean_blanks hbefore] at hclean
  split at h
  · next value _ hstring =>
    cases h
    obtain ⟨text, hblanks, hcharacters⟩ := text_of_stringValue hstring
    exact ⟨_, .text value, hbefore.trans hblanks, FlatJson.Reads.text hcharacters⟩
  next cursor₂ hstring =>
  rcases rest_of_stringValue hclean hstring with rfl | hbetween
  · cases h
  rw [FlatJson.clean_blanks hbetween] at hclean
  split at h
  · next value _ hinteger =>
    cases h
    obtain ⟨text, hblanks, hreads⟩ := reads_of_integerValue hclean hinteger
    exact ⟨text, .integer value.toInt, hbefore.trans (hbetween.trans hblanks), hreads⟩
  · cases h

/-- A response that either gate accepts is one well-formed object with distinct keys, no error and
the extracted values exactly when it has no slip: no comma before the closing brace, no number with
a leading zero, and no string with a control byte or an escape that the gate does not know. -/
theorem parseTokenResponse_wellFormed_iff (now : Int64) (body : Bytes) :
    (∀ envelope, CTraderGate7Runtime.parseTokenResponse now body = some envelope →
      ((∃ members, WellFormedResponse CTraderGate7Runtime.unescape now body envelope.accessToken
        envelope.refreshToken envelope.tokenType envelope.expiresAtEpochSeconds members) ↔
        FlatJson.clean CTraderGate7Runtime.unescape .between body = true)) ∧
    (∀ envelope, CTraderGate6Runtime.parseTokenResponse now body = some envelope →
      ((∃ members, WellFormedResponse CTraderGate6Runtime.unescape now body envelope.accessToken
        envelope.refreshToken envelope.tokenType envelope.expiresAtEpochSeconds members) ↔
        FlatJson.clean CTraderGate6Runtime.unescape .between body = true)) := by
  constructor
  · intro envelope h
    obtain ⟨output, hparse, rfl⟩ := Option.map_eq_some_iff.mp h
    exact TokenReader.wellFormed_iff skips_gate7 hparse
  · intro envelope h
    rw [parseTokenResponse_eq] at h
    exact TokenReader.wellFormed_iff skips_gate6 h

/-- A response that both gates accept. -/
def acceptedResponse : Bytes :=
  ascii "\x7b\"accessToken\":\"a\",\"tokenType\":\"bearer\",\"expiresIn\":60," ++
    ascii "\"refreshToken\":\"r\",\"errorCode\":null,\"description\":null\x7d"

/-- A response with all four members is accepted and well formed. -/
theorem parseTokenResponse_wellFormed_iff_accepted :
    ∃ members, WellFormedResponse CTraderGate7Runtime.unescape 0 acceptedResponse
      (ascii "a") (ascii "r") (ascii "bearer") 60 members :=
  ((parseTokenResponse_wellFormed_iff 0 acceptedResponse).1
    { accessToken := ascii "a", refreshToken := ascii "r", tokenType := ascii "bearer"
      expiresAtEpochSeconds := 60, scope := oauthScope }
    (by decide +kernel)).mpr (by decide +kernel)

/-- A comma before the closing brace. -/
def trailingCommaResponse : Bytes :=
  ascii "\x7b\"accessToken\":\"a\",\"tokenType\":\"bearer\",\"expiresIn\":60," ++
    ascii "\"refreshToken\":\"r\",\"errorCode\":null,\x7d"

/-- Both gates accept a text that is not an object of the grammar. -/
theorem parseTokenResponse_takes_trailingComma :
    ((CTraderGate7Runtime.parseTokenResponse 0 trailingCommaResponse).isSome = true ∧
      ¬∃ members, FlatJson.Object CTraderGate7Runtime.unescape trailingCommaResponse members) ∧
    ((CTraderGate6Runtime.parseTokenResponse 0 trailingCommaResponse).isSome = true ∧
      ¬∃ members, FlatJson.Object CTraderGate6Runtime.unescape trailingCommaResponse members) := by
  have hslips : ((CTraderGate7Runtime.parseTokenResponse 0 trailingCommaResponse).isSome = true ∧
        FlatJson.clean CTraderGate7Runtime.unescape .between trailingCommaResponse = false) ∧
      ((CTraderGate6Runtime.parseTokenResponse 0 trailingCommaResponse).isSome = true ∧
        FlatJson.clean CTraderGate6Runtime.unescape .between trailingCommaResponse = false) := by
    decide +kernel
  obtain ⟨⟨h7, hslip7⟩, h6, hslip6⟩ := hslips
  refine ⟨⟨h7, ?_⟩, h6, ?_⟩
  · rintro ⟨members, hobject⟩
    rw [hobject.clean] at hslip7
    cases hslip7
  · rintro ⟨members, hobject⟩
    rw [hobject.clean] at hslip6
    cases hslip6

end Gates

end TradeBot

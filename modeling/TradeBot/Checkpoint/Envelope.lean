import TradeBot.Checkpoint.Codec
import TradeBot.Library.QuotedText

/-!
# The envelope of a snapshot

The text around a payload: `checksum`, `hex64`, the document that `saveImpl` writes, and
the search for its fields in `loadImpl`. The fields of a document with hexadecimal digits
as checksum and payload are found again.
-/

namespace TradeBot

open Library

namespace StateSerializer

/-- `SNAPSHOT_VERSION` -/
def snapshotVersion : ℕ := 13

/-- `checksum` -/
def checksum (bytes : List UInt8) : UInt64 :=
  bytes.foldl (fun value byte => (value ^^^ byte.toUInt64) * 1099511628211) 1469598103934665603

/-- `hex64` -/
def hex64 (value : UInt64) : String :=
  String.ofList ((List.range 16).map fun i =>
    hexDigits.getD (value.toNat / 16 ^ (15 - i) % 16) '0')

/-- The fields of the document. -/
structure Envelope where
  schema : String
  version : ℕ
  encoding : String
  checksum : String
  payload : String
  deriving DecidableEq

/-- The document with these fields. -/
def Envelope.text (e : Envelope) : String :=
  "\x7b\n  \"schema\": \"" ++ e.schema ++ "\",\n  \"version\": " ++ toString e.version
    ++ ",\n  \"payloadEncoding\": \"" ++ e.encoding
    ++ "\",\n  \"payloadChecksum\": \"" ++ e.checksum
    ++ "\",\n  \"payload\": \"" ++ e.payload ++ "\"\n\x7d\n"

/-- The envelope that `saveImpl` writes around a payload. -/
def envelope (payload : List UInt8) : Envelope where
  schema := "tradebot.backtest-state"
  version := snapshotVersion
  encoding := "hex-v1"
  checksum := hex64 (checksum payload)
  payload := hexEncode payload

/-- `jsonString` -/
def jsonString (json key : String) : Option String := do
  let rest ← after (marker '"' key.toList) json.toList
  if (after (marker '"' key.toList) rest).isSome then none
  else
    let afterColon ← after [':'] rest
    let value ← after ['"'] afterColon
    let _ ← after ['"'] value
    return String.ofList (value.takeWhile fun c => decide (c ≠ '"'))

/-- `std::isspace` in the C locale. -/
def isSpace (c : Char) : Bool := decide (c = ' ') || decide (9 ≤ c.toNat ∧ c.toNat ≤ 13)

/-- The number of decimal digits; `std::stoull` throws when it is too large. -/
def stoull (digits : List Char) : Option ℕ :=
  let value := digits.foldl (fun value c => 10 * value + (c.toNat - '0'.toNat)) 0
  if value < 2 ^ 64 then some value else none

/-- `jsonVersion` -/
def jsonVersion (json : String) : Option ℕ := do
  let rest ← after (marker '"' "version".toList) json.toList
  if (after (marker '"' "version".toList) rest).isSome then none
  else
    let afterColon ← after [':'] rest
    let digits := (afterColon.dropWhile isSpace).takeWhile Char.isDigit
    if digits = [] then none else stoull digits

/-- The fields that `loadImpl` finds in a document. -/
def parseEnvelope (json : String) : Option Envelope := do
  let schema ← jsonString json "schema"
  let version ← jsonVersion json
  let encoding ← jsonString json "payloadEncoding"
  let checksum ← jsonString json "payloadChecksum"
  let payload ← jsonString json "payload"
  return ⟨schema, version, encoding, checksum, payload⟩

section Fields

/-- A text of hexadecimal digits. -/
def IsHex (s : String) : Prop := ∀ c ∈ s.toList, c ∈ hexDigits

/-- Encoded bytes are hexadecimal text. -/
theorem isHex_hexEncode (bytes : List UInt8) : IsHex (hexEncode bytes) := by
  have hdigit : ∀ n < 16, hexDigits.getD n '0' ∈ hexDigits := by decide
  intro c hc
  rw [hexEncode, String.toList_ofList] at hc
  obtain ⟨b, -, hpair⟩ := List.mem_flatMap.mp hc
  have hlt := b.toNat_lt
  rw [hexPair, toNat_high, toNat_low] at hpair
  rcases List.mem_cons.mp hpair with rfl | hpair
  · exact hdigit _ (by omega)
  · rw [List.mem_singleton.mp hpair]
    exact hdigit _ (by omega)

/-- So is a checksum. -/
theorem isHex_hex64 (value : UInt64) : IsHex (hex64 value) := by
  have hdigit : ∀ n < 16, hexDigits.getD n '0' ∈ hexDigits := by decide
  intro c hc
  rw [hex64, String.toList_ofList] at hc
  obtain ⟨i, -, rfl⟩ := List.mem_map.mp hc
  exact hdigit _ (Nat.mod_lt _ (by decide))

/-- A text of digits that `hexDecode` reads, in either letter case. -/
def IsDigits (s : String) : Prop := ∀ c ∈ s.toList, (hexDigit c).isSome = true

/-- Hexadecimal text consists of digits the decoder knows. -/
theorem IsHex.isDigits {s : String} (h : IsHex s) : IsDigits s := by
  have hdigits : hexDigits.all (fun c => (hexDigit c).isSome) = true := by decide
  exact fun c hc => List.all_eq_true.mp hdigits c (h c hc)

/-- A character that is no digit does not occur among digits. -/
theorem IsDigits.notMem {s : String} (h : IsDigits s) {c : Char} (hc : hexDigit c = none) :
    c ∉ s.toList := by
  intro hmem
  have hsome := h c hmem
  rw [hc] at hsome
  cases hsome

/-- Hence digits never start with the quoted name of a field. -/
theorem IsDigits.ne_cons {s : String} (h : IsDigits s) {c : Char} (hc : hexDigit c = none)
    {key : List Char} : s.toList ≠ c :: key := by
  intro heq
  apply h.notMem hc
  rw [heq]
  exact List.mem_cons_self

/-- The pieces of a document between its quotes. -/
def Envelope.pieces (e : Envelope) : List (List Char) := [
  "\x7b\n  ".toList, "schema".toList, ": ".toList, e.schema.toList,
  ",\n  ".toList, "version".toList, ": ".toList ++ (toString e.version).toList ++ ",\n  ".toList,
  "payloadEncoding".toList, ": ".toList, e.encoding.toList,
  ",\n  ".toList, "payloadChecksum".toList, ": ".toList, e.checksum.toList,
  ",\n  ".toList, "payload".toList, ": ".toList, e.payload.toList, "\n\x7d\n".toList]

/-- The text of an envelope is its pieces, with quotes in between. -/
theorem Envelope.toList_text (e : Envelope) : e.text.toList = joined '"' e.pieces := by
  have hschema : "\x7b\n  \"schema\": \"".toList =
      "\x7b\n  ".toList ++ '"' :: ("schema".toList ++ '"' :: (": ".toList ++ ['"'])) := by decide
  have hversion : "\",\n  \"version\": ".toList =
      '"' :: (",\n  ".toList ++ '"' :: ("version".toList ++ '"' :: ": ".toList)) := by decide
  have hencoding : ",\n  \"payloadEncoding\": \"".toList =
      ",\n  ".toList ++ '"' :: ("payloadEncoding".toList ++ '"' :: (": ".toList ++ ['"'])) := by
    decide
  have hchecksum : "\",\n  \"payloadChecksum\": \"".toList = '"' ::
      (",\n  ".toList ++ '"' :: ("payloadChecksum".toList ++ '"' :: (": ".toList ++ ['"']))) := by
    decide
  have hpayload : "\",\n  \"payload\": \"".toList = '"' ::
      (",\n  ".toList ++ '"' :: ("payload".toList ++ '"' :: (": ".toList ++ ['"']))) := by decide
  have hend : "\"\n\x7d\n".toList = '"' :: "\n\x7d\n".toList := by decide
  unfold Envelope.text Envelope.pieces
  repeat rw [String.toList_append]
  rw [hschema, hversion, hencoding, hchecksum, hpayload, hend]
  simp only [joined, List.append_assoc, List.cons_append, List.nil_append]

/-- What follows a character that stands first. -/
theorem after_self (c : Char) (text : List Char) : after [c] (c :: text) = some text := by
  simp [after]

/-- A field of a document is what stands between quotes after its key and a colon. -/
theorem jsonString_eq {json key value : String} {pieces : List (List Char)} {n : ℕ}
    (hjson : json.toList = joined '"' pieces)
    (hpieces : ∀ piece ∈ pieces, '"' ∉ piece) (hkey : '"' ∉ key.toList)
    (hdrop : ∃ next rest, pieces.drop n = ": ".toList :: value.toList :: next :: rest)
    (hfirst : afterKey key.toList pieces = some (pieces.drop n))
    (honly : afterKey key.toList (pieces.drop n) = none) :
    jsonString json key = some value := by
  obtain ⟨next, rest, hdrop⟩ := hdrop
  have hrest : ∀ piece ∈ pieces.drop n, '"' ∉ piece :=
    fun piece hpiece => hpieces piece (List.mem_of_mem_drop hpiece)
  have hvalue : '"' ∉ value.toList := by
    rw [hdrop] at hrest
    exact hrest _ (List.mem_cons_of_mem _ List.mem_cons_self)
  have hcolon : joined '"' (pieces.drop n) =
      ':' :: ([' '] ++ '"' :: (value.toList ++ '"' :: joined '"' (next :: rest))) := by
    rw [hdrop]
    rfl
  have hspace : '"' ∉ [' '] := by decide
  have htake : (value.toList ++ '"' :: joined '"' (next :: rest)).takeWhile
      (fun c => decide (c ≠ '"')) = value.toList := by
    rw [List.takeWhile_append_of_pos fun c hc => decide_eq_true (ne_of_mem_of_not_mem hc hvalue),
      List.takeWhile_cons_of_neg (by decide), List.append_nil]
  unfold jsonString
  rw [hjson, after_joined hkey hpieces, hfirst]
  dsimp only [Option.map, bind, Option.bind]
  rw [after_joined hkey hrest, honly, hcolon, after_self]
  dsimp only [Option.map, Option.isSome]
  rw [if_neg Bool.false_ne_true, after_append hspace, after_self]
  dsimp only
  rw [after_append hvalue, after_self, htake, String.ofList_toList]
  rfl

section Framed

variable {e : Envelope}

/-- An envelope with the fields that `saveImpl` writes around a checksum and a payload, which are
texts of digits. -/
structure Framed (e : Envelope) : Prop where
  schema : e.schema = "tradebot.backtest-state"
  version : e.version = snapshotVersion
  encoding : e.encoding = "hex-v1"
  checksum : IsDigits e.checksum
  payload : IsDigits e.payload

/-- The envelope that is written has plain field values. -/
theorem framed_envelope (payload : List UInt8) : Framed (envelope payload) :=
  ⟨rfl, rfl, rfl, (isHex_hex64 _).isDigits, (isHex_hexEncode payload).isDigits⟩

/-- The pieces of a framed envelope are its field names and values in turn. -/
theorem Framed.pieces_eq (h : Framed e) : e.pieces = [
    "\x7b\n  ".toList, "schema".toList, ": ".toList, "tradebot.backtest-state".toList,
    ",\n  ".toList, "version".toList, ": 13,\n  ".toList, "payloadEncoding".toList,
    ": ".toList, "hex-v1".toList, ",\n  ".toList, "payloadChecksum".toList, ": ".toList,
    e.checksum.toList, ",\n  ".toList, "payload".toList, ": ".toList, e.payload.toList,
    "\n\x7d\n".toList] := by
  have hversion : ": ".toList ++ (toString 13).toList ++ ",\n  ".toList = ": 13,\n  ".toList := by
    decide
  unfold Envelope.pieces
  rw [h.schema, h.version, h.encoding]
  unfold snapshotVersion
  rw [hversion]

/-- No piece has a quote of its own, so that quotes only separate. -/
theorem Framed.quotes_pieces (h : Framed e) : ∀ piece ∈ e.pieces, '"' ∉ piece := by
  have hquote : hexDigit '"' = none := by decide
  have hchecksum := h.checksum.notMem hquote
  have hpayload := h.payload.notMem hquote
  rw [h.pieces_eq]
  simp only [List.forall_mem_cons, List.not_mem_nil, false_imp_iff, implies_true, and_true]
  refine ⟨by decide, by decide, by decide, by decide, by decide, by decide, by decide, by decide,
    by decide, by decide, by decide, by decide, by decide, hchecksum, by decide, by decide,
    by decide, hpayload, by decide⟩

/-- The version is read back from the text. -/
theorem Framed.jsonVersion_eq (h : Framed e) : jsonVersion e.text = some e.version := by
  have hv : hexDigit 'v' = none := by decide
  have hquotes := h.quotes_pieces
  have hrest : ∀ piece ∈ e.pieces.drop 6, '"' ∉ piece :=
    fun piece hpiece => hquotes piece (List.mem_of_mem_drop hpiece)
  have hfirst : afterKey "version".toList e.pieces = some (e.pieces.drop 6) := by
    rw [h.pieces_eq]
    simp [afterKey]
  have honly : afterKey "version".toList (e.pieces.drop 6) = none := by
    rw [h.pieces_eq]
    simp [afterKey, h.checksum.ne_cons hv, h.payload.ne_cons hv]
  unfold jsonVersion
  rw [e.toList_text, after_joined (by decide) hquotes, hfirst]
  dsimp only [Option.map, bind, Option.bind]
  rw [after_joined (by decide) hrest, honly, h.pieces_eq, h.version]
  rfl

/-- The fields of a document are found. -/
theorem Framed.parse_eq (h : Framed e) : parseEnvelope e.text = some e := by
  have htext := e.toList_text
  have hquotes := h.quotes_pieces
  -- no key is a text of digits, as each begins with one of three letters
  have hs : hexDigit 's' = none := by decide
  have hp : hexDigit 'p' = none := by decide
  have hchecksum := h.checksum
  have hpayload := h.payload
  have hschema : jsonString e.text "schema" = some e.schema := by
    refine jsonString_eq (n := 2) htext hquotes (by decide) ?_ ?_ ?_ <;> rw [h.pieces_eq]
    · rw [h.schema]
      exact ⟨_, _, rfl⟩
    · simp [afterKey]
    · simp [afterKey, hchecksum.ne_cons hs, hpayload.ne_cons hs]
  have hversion := h.jsonVersion_eq
  have hencoding : jsonString e.text "payloadEncoding" = some e.encoding := by
    refine jsonString_eq (n := 8) htext hquotes (by decide) ?_ ?_ ?_ <;> rw [h.pieces_eq]
    · rw [h.encoding]
      exact ⟨_, _, rfl⟩
    · simp [afterKey]
    · simp [afterKey, hchecksum.ne_cons hp, hpayload.ne_cons hp]
  have hsum : jsonString e.text "payloadChecksum" = some e.checksum := by
    refine jsonString_eq (n := 12) htext hquotes (by decide) ?_ ?_ ?_ <;> rw [h.pieces_eq]
    · exact ⟨_, _, rfl⟩
    · simp [afterKey]
    · simp [afterKey, hchecksum.ne_cons hp, hpayload.ne_cons hp]
  have hbytes : jsonString e.text "payload" = some e.payload := by
    refine jsonString_eq (n := 16) htext hquotes (by decide) ?_ ?_ ?_ <;> rw [h.pieces_eq]
    · exact ⟨_, _, rfl⟩
    · simp [afterKey, hchecksum.ne_cons hp]
    · simp [afterKey, hpayload.ne_cons hp]
  unfold parseEnvelope
  rw [hschema, hversion, hencoding, hsum, hbytes]
  rfl

end Framed

end Fields

end StateSerializer

end TradeBot

import TradeBot.LiveDataAdapter

/-!
# What a parsed tick remembers

`parseExternalTick` writes into a node that has held another tick. It overwrites every field
of the candle but the symbol, for which a payload without one leaves the earlier text in place.
-/

namespace TradeBot

open Library

section Forgetting

variable {reader : NumberReader} {payload : Bytes} {seconds : ℕ}

/-- The symbol of a payload. -/
def payloadSymbol (payload : Bytes) : Option Bytes :=
  (extractString payload "s").orElse fun _ => extractString payload "symbol"

/-- The price of a payload. -/
def payloadPrice (reader : NumberReader) (payload : Bytes) : Option Double :=
  (extractNumber reader payload "c").orElse fun _ =>
    (extractNumber reader payload "p").orElse fun _ => extractNumber reader payload "price"

/-- Two nodes are parsed alike: the payload is no tick for both, or gives both one candle. -/
def ParsedAlike (reader : NumberReader) (payload : Bytes) (seconds : ℕ) (out out' : TickNode) :
    Prop :=
  let parsed := parseExternalTick reader payload seconds out
  let parsed' := parseExternalTick reader payload seconds out'
  (parsed.1 = false ∧ parsed'.1 = false) ∨
    (parsed.1 = true ∧ parsed'.1 = true ∧ parsed.2.candle = parsed'.2.candle)

/-- A payload without a price is no tick. -/
theorem parseExternalTick_of_none (hprice : payloadPrice reader payload = none)
    (out : TickNode) : (parseExternalTick reader payload seconds out).1 = false := by
  unfold payloadPrice at hprice
  unfold parseExternalTick
  dsimp only
  rw [hprice]

/-- The symbol of a parsed tick: that of the payload, and else the earlier one. -/
def symbolAfter (payload : Bytes) (earlier : Bytes) : Bytes :=
  let symbol := (payloadSymbol payload).getD earlier
  if symbol = [] then ascii "UNKNOWN" else symbol

/-- **A parsed tick.** A payload with a price is a tick, and all of its candle but the symbol
comes from the payload and the clock. -/
theorem parseExternalTick_of_some {price : Double}
    (hprice : payloadPrice reader payload = some price) (out : TickNode) :
    (parseExternalTick reader payload seconds out).1 = true ∧
      (parseExternalTick reader payload seconds out).2.candle =
        { (parseExternalTick reader payload seconds {}).2.candle with
          symbol := symbolAfter payload out.candle.symbol } := by
  unfold payloadPrice at hprice
  unfold parseExternalTick
  dsimp only
  rw [hprice]
  exact ⟨rfl, rfl⟩

/-- Nodes with the same symbol are parsed alike. -/
theorem parsedAlike_of_symbolAfter {out out' : TickNode}
    (h : symbolAfter payload out.candle.symbol = symbolAfter payload out'.candle.symbol) :
    ParsedAlike reader payload seconds out out' := by
  cases hprice : payloadPrice reader payload with
  | none =>
    exact .inl ⟨parseExternalTick_of_none hprice out, parseExternalTick_of_none hprice out'⟩
  | some price =>
    obtain ⟨haccepted, hcandle⟩ := @parseExternalTick_of_some reader payload seconds _ hprice out
    obtain ⟨haccepted', hcandle'⟩ := @parseExternalTick_of_some reader payload seconds _ hprice out'
    exact .inr ⟨haccepted, haccepted', by rw [hcandle, hcandle', h]⟩

/-- **What a payload has to carry.** Whatever two nodes held before, a payload is parsed alike
into both exactly when it carries a symbol, or no price. -/
theorem parsedAlike_iff (reader : NumberReader) (payload : Bytes) (seconds : ℕ) :
    (∀ out out' : TickNode, ParsedAlike reader payload seconds out out') ↔
      (payloadSymbol payload).isSome = true ∨ payloadPrice reader payload = none := by
  constructor
  · intro halike
    by_contra hnot
    rw [not_or, Option.not_isSome_iff_eq_none] at hnot
    obtain ⟨hsymbol, hprice⟩ := hnot
    obtain ⟨price, hprice⟩ := Option.ne_none_iff_exists'.mp hprice
    -- two nodes that held ticks of different symbols
    let first : TickNode := { candle := { symbol := ascii "A" } }
    let second : TickNode := { candle := { symbol := ascii "B" } }
    obtain ⟨haccepted, hcandle⟩ := @parseExternalTick_of_some reader payload seconds _ hprice first
    obtain ⟨-, hcandle'⟩ := @parseExternalTick_of_some reader payload seconds _ hprice second
    rcases halike first second with ⟨hrefused, -⟩ | ⟨-, -, hsame⟩
    · rw [haccepted] at hrefused
      cases hrefused
    · rw [hcandle, hcandle', TickCandle.mk.injEq] at hsame
      have hsymbols := hsame.2.2.1
      unfold symbolAfter at hsymbols
      rw [hsymbol] at hsymbols
      exact absurd hsymbols (by decide)
  · rintro (hsymbol | hprice) out out'
    · obtain ⟨symbol, hsymbol⟩ := Option.isSome_iff_exists.mp hsymbol
      apply parsedAlike_of_symbolAfter
      unfold symbolAfter
      rw [hsymbol]
      rfl
    · exact .inl ⟨parseExternalTick_of_none hprice out, parseExternalTick_of_none hprice out'⟩

/-- A reader of one-digit numbers. -/
def digitReader : NumberReader where
  strtod text := .finite ((text.headD 48).toNat - 48 : ℕ)
  toUInt64 value := if value = .finite 0 then 0 else 1

/-- A payload with a price and no symbol takes the symbol of the tick before it. -/
theorem parse_takes_earlier_symbol :
    let payload := ascii "\x7b\"c\":5\x7d"
    let out : TickNode := { candle := { symbol := ascii "BTCUSDT" } }
    let out' : TickNode := { candle := { symbol := ascii "ETHUSDT" } }
    (parseExternalTick digitReader payload 1710000000 out).1 = true ∧
    (parseExternalTick digitReader payload 1710000000 out).2.candle.symbol = ascii "BTCUSDT" ∧
    (parseExternalTick digitReader payload 1710000000 out').2.candle.symbol = ascii "ETHUSDT" ∧
    ¬ParsedAlike digitReader payload 1710000000 out out' := by
  intro payload out out'
  have haccepted : (parseExternalTick digitReader payload 1710000000 out).1 = true := by
    decide +kernel
  have hsymbol : (parseExternalTick digitReader payload 1710000000 out).2.candle.symbol =
      ascii "BTCUSDT" := by decide +kernel
  have hsymbol' : (parseExternalTick digitReader payload 1710000000 out').2.candle.symbol =
      ascii "ETHUSDT" := by decide +kernel
  refine ⟨haccepted, hsymbol, hsymbol', ?_⟩
  rintro (⟨hrefused, -⟩ | ⟨-, -, hsame⟩)
  · rw [haccepted] at hrefused
    cases hrefused
  · rw [← hsame, hsymbol] at hsymbol'
    exact absurd hsymbol' (by decide)

end Forgetting

end TradeBot

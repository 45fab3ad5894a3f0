import TradeBot.Allocation.Attribution
import TradeBot.Allocation.ReportingDesk
import TradeBot.Allocation.Sales
import TradeBot.Allocation.Weights
import TradeBot.AnalyticsEngine
import TradeBot.AuthManager
import TradeBot.Backtest.Agreement
import TradeBot.Backtest.Candles
import TradeBot.Backtest.Portfolios
import TradeBot.Backtest.Restoring
import TradeBot.Backtest.Resumption
import TradeBot.Backtest.Routing
import TradeBot.Backtest.Signals
import TradeBot.BrokerAdapterContracts
import TradeBot.BrokerGateway
import TradeBot.CTrader.AccountSelection
import TradeBot.CTrader.CodeExtraction
import TradeBot.CTrader.ConstantTime
import TradeBot.CTrader.CorrelationOnce
import TradeBot.CTrader.Gate6Proof
import TradeBot.CTrader.Gate7Proof
import TradeBot.CTrader.OAuthCorrelation
import TradeBot.CTrader.PriceNormalization
import TradeBot.CTrader.QueryGrammar
import TradeBot.CTrader.QuoteEvidence
import TradeBot.CTrader.QuotePrices
import TradeBot.CTrader.StoredToken
import TradeBot.CTrader.TimestampUnits
import TradeBot.CTrader.TokenResponse
import TradeBot.CTrader.TokenRoundTrip
import TradeBot.CTrader.TokenWellFormed
import TradeBot.CTrader.Transport
import TradeBot.CTrader.TransportReplies
import TradeBot.Checkpoint.AtomicWrite
import TradeBot.Checkpoint.Atomicity
import TradeBot.Checkpoint.Codec
import TradeBot.Checkpoint.Components
import TradeBot.Checkpoint.Corruption
import TradeBot.Checkpoint.CrashSafety
import TradeBot.Checkpoint.Envelope
import TradeBot.Checkpoint.Loadable
import TradeBot.Checkpoint.Loading
import TradeBot.Checkpoint.OrderIds
import TradeBot.Checkpoint.Portfolios
import TradeBot.Checkpoint.Recovery
import TradeBot.Checkpoint.Representation
import TradeBot.Checkpoint.Restoration
import TradeBot.Checkpoint.RoundTrip
import TradeBot.Checkpoint.Sections
import TradeBot.Checkpoint.Serializer
import TradeBot.Checkpoint.Sizes
import TradeBot.Checkpoint.Validation
import TradeBot.Checkpoint.Values
import TradeBot.DeterministicBrokerAdapter
import TradeBot.Double
import TradeBot.EventLoop
import TradeBot.ExecutionEngine
import TradeBot.FinancialExactness
import TradeBot.FinancialMath
import TradeBot.FinancialRounding
import TradeBot.Gateway.DispatchKeys
import TradeBot.Gateway.Normalization
import TradeBot.Gateway.RecordedKeys
import TradeBot.L2OrderBook
import TradeBot.Library.AtomicRegisters
import TradeBot.Library.BigEndian
import TradeBot.Library.Binary64
import TradeBot.Library.BoundedQueue
import TradeBot.Library.ByteCodec
import TradeBot.Library.Bytes
import TradeBot.Library.CachedBest
import TradeBot.Library.CappedDoubling
import TradeBot.Library.Checksum
import TradeBot.Library.CircularReading
import TradeBot.Library.CostLedger
import TradeBot.Library.Custody
import TradeBot.Library.DecimalTexts
import TradeBot.Library.Fallible
import TradeBot.Library.FixedRecords
import TradeBot.Library.FlatJson
import TradeBot.Library.FormEncoding
import TradeBot.Library.Framing
import TradeBot.Library.KeyedTotals
import TradeBot.Library.LongDivision
import TradeBot.Library.Machine
import TradeBot.Library.Matching
import TradeBot.Library.Normalisation
import TradeBot.Library.NumberedTexts
import TradeBot.Library.Protocols
import TradeBot.Library.QuotedText
import TradeBot.Library.Redelivery
import TradeBot.Library.Rounding
import TradeBot.Library.RowMajor
import TradeBot.Library.Sha256
import TradeBot.Library.ShellWords
import TradeBot.Library.SlidingWindow
import TradeBot.Library.SlotPool
import TradeBot.Library.SortedMaps
import TradeBot.Library.Splitting
import TradeBot.Library.StepFloor
import TradeBot.Library.StreamMerge
import TradeBot.Library.TextCuts
import TradeBot.Lifecycle.Absorption
import TradeBot.Lifecycle.AuditTrail
import TradeBot.Lifecycle.CancelRace
import TradeBot.Lifecycle.Checks
import TradeBot.Lifecycle.Decisions
import TradeBot.Lifecycle.ExternalIds
import TradeBot.Lifecycle.FilledMonotone
import TradeBot.Lifecycle.Quantities
import TradeBot.Lifecycle.Records
import TradeBot.Lifecycle.Redelivery
import TradeBot.Lifecycle.Sequences
import TradeBot.Lifecycle.StateQuantities
import TradeBot.Lifecycle.Steps
import TradeBot.LiveDataAdapter
import TradeBot.LocalDataReplayAdapter
import TradeBot.LockFreeRingBuffer
import TradeBot.MarketData.BestQuotes
import TradeBot.MarketData.NodeConservation
import TradeBot.MarketData.QuoteFidelity
import TradeBot.MarketData.ReplayPacing
import TradeBot.MarketData.ReplayRecords
import TradeBot.MarketData.TickParsing
import TradeBot.Network.CertificateCheck
import TradeBot.Network.Chunking
import TradeBot.Network.Fragments
import TradeBot.Network.FrameRoundTrip
import TradeBot.Network.LoopbackHosts
import TradeBot.Network.ReconnectBackoff
import TradeBot.Network.ReconnectRuns
import TradeBot.Network.Reconnection
import TradeBot.Network.UrlPorts
import TradeBot.Network.Urls
import TradeBot.Network.WebSocketDecoder
import TradeBot.OrderLifecycleStore
import TradeBot.OrderNormalization
import TradeBot.PaperBroker
import TradeBot.PaperSystem
import TradeBot.PortfolioAccounting
import TradeBot.PortfolioAllocator
import TradeBot.PortfolioLedger
import TradeBot.PortfolioManager
import TradeBot.PortfolioMembers
import TradeBot.PortfolioQueue
import TradeBot.PortfolioRecords
import TradeBot.PortfolioSnapshot
import TradeBot.PortfolioValuation
import TradeBot.RegimeDetector
import TradeBot.Risk.Drawdown
import TradeBot.Risk.ErrorWindow
import TradeBot.Risk.Frames
import TradeBot.Risk.Gates
import TradeBot.Risk.Halting
import TradeBot.Risk.ValueAtRisk
import TradeBot.RiskEngine
import TradeBot.RiskMonitor
import TradeBot.Session
import TradeBot.Strategies
import TradeBot.System
import TradeBot.Trading.Bookings
import TradeBot.Trading.Books
import TradeBot.Trading.Commitments
import TradeBot.Trading.Decisions
import TradeBot.Trading.Dispatch
import TradeBot.Trading.EngineIsolation
import TradeBot.Trading.EngineNumbers
import TradeBot.Trading.EntrySizing
import TradeBot.Trading.EventKeys
import TradeBot.Trading.ExecutionReports
import TradeBot.Trading.FillAgreement
import TradeBot.Trading.GatewayExclusivity
import TradeBot.Trading.LiveTriggers
import TradeBot.Trading.LocalDesk
import TradeBot.Trading.LocalFills
import TradeBot.Trading.LoopDesk
import TradeBot.Trading.NetFilled
import TradeBot.Trading.OfferedOrders
import TradeBot.Trading.PaperAgreement
import TradeBot.Trading.PaperAnswers
import TradeBot.Trading.PaperDispatch
import TradeBot.Trading.PaperFidelity
import TradeBot.Trading.PaperFills
import TradeBot.Trading.PaperSteps
import TradeBot.Trading.PaperTwins
import TradeBot.Trading.Protection
import TradeBot.Trading.Purchases
import TradeBot.Trading.RestingOrders
import TradeBot.Trading.SellQuantities
import TradeBot.Trading.Sizing
import TradeBot.Trading.SoundBooks
import TradeBot.Trading.Steps
import TradeBot.Trading.TradeRecords
import TradeBot.Trading.TrailingStops
import TradeBot.Trading.TriggerPrices
import TradeBot.Trading.TriggerSlots
import TradeBot.TriggerOrderManager

import Fanfolio.Ownership.Chain
import Fanfolio.Points.Operations
import Fanfolio.Framework.Journal
import Fanfolio.Points.Reconciliation
import Fanfolio.Cards.Schema
import Fanfolio.Cards.Grant
import Fanfolio.Cards.Redeem
import Fanfolio.Cards.Trade
import Fanfolio.Cards.Combination
import Fanfolio.Cards.Pack
import Fanfolio.Cards.TradeRequests
import Fanfolio.Cards.System
import Fanfolio.Cards.TradeLocks
import Fanfolio.Cards.ConsumedCards
import Fanfolio.Cards.Acceptance
import Fanfolio.Cards.Issue
import Fanfolio.Cards.IssueLimit
import Fanfolio.Cards.Redemption
import Fanfolio.Cards.TradeRace
import Fanfolio.Calendar
import Fanfolio.Growth.Levels
import Fanfolio.Growth.Rewards
import Fanfolio.Growth.Missions
import Fanfolio.Growth.Processing
import Fanfolio.Growth.EventStatus
import Fanfolio.Growth.MissionRace
import Fanfolio.Growth.Achievements
import Fanfolio.Growth.AchievementRewards
import Fanfolio.Growth.AchievementRuns
import Fanfolio.Growth.MissionCount
import Fanfolio.Pass.Claim
import Fanfolio.Pass.Reconcile
import Fanfolio.Pass.Seasons
import Fanfolio.Pass.ClaimRace
import Fanfolio.Shop.Orders
import Fanfolio.Shop.Refunds
import Fanfolio.Framework.RowLocks
import Fanfolio.Shop.RefundRace
import Fanfolio.Shop.Stock
import Fanfolio.Shop.PassPurchase
import Fanfolio.Shop.Keys
import Fanfolio.Shop.ChargeReplay
import Fanfolio.Shop.Openings
import Fanfolio.Release.Schema
import Fanfolio.Release.Cards
import Fanfolio.Release.Drops
import Fanfolio.Release.Effects
import Fanfolio.Release.System
import Fanfolio.Release.Reviews
import Fanfolio.Release.Openable
import Fanfolio.Identity.Schema
import Fanfolio.Identity.Social
import Fanfolio.Identity.Takeover
import Fanfolio.Identity.Tokens
import Fanfolio.Identity.Logins
import Fanfolio.Identity.Deletion
import Fanfolio.Identity.System
import Fanfolio.Identity.TokenRace
import Fanfolio.Identity.OneTime
import Fanfolio.Notifications.Delivery
import Fanfolio.Notifications.Queue
import Fanfolio.Cards.Notices
import Fanfolio.Cards.RedeemPreview
import Fanfolio.Cards.CombinePreview
import Fanfolio.Cards.Collection
import Fanfolio.Cards.OwnedCards
import Fanfolio.Framework.Binary64
import Fanfolio.Cards.CollectionGoals
import Fanfolio.Assets.Completion
import Fanfolio.Assets.SceneJobs
import Fanfolio.Shop.Approvals
import Fanfolio.Shop.PackRewards
import Fanfolio.Shop.MissionClaim
import Fanfolio.Shop.Posted
import Fanfolio.Shop.ExchangeReplay
import Fanfolio.Shop.PassSales
import Fanfolio.Shop.PassView
import Fanfolio.Partners.Access
import Fanfolio.Partners.Members
import Fanfolio.Partners.Containment
import Fanfolio.FanEvents.Links
import Fanfolio.Framework.UnitOfWork
import Fanfolio.FanEvents.RelatedCards
import Fanfolio.FanEvents.CheckInPass
import Fanfolio.FanEvents.EventNotices
import Fanfolio.FanEvents.CheckIn
import Fanfolio.FanEvents.Capacity
import Fanfolio.Cards.Holds
import Fanfolio.Cards.Serials
import Fanfolio.Cards.GrantRace
import Fanfolio.Cards.PrintedCodes
import Fanfolio.Cards.CombinationSteps
import Fanfolio.Cards.CombinationRace
import Fanfolio.Cards.CombinationRuns
import Fanfolio.Growth.Windows
import Fanfolio.Growth.Revocation
import Fanfolio.Design.EffectConfig
import Fanfolio.Design.CardEffects
import Fanfolio.Design.DesignConfig
import Fanfolio.RateLimit
import Fanfolio.Release.ContentCalendar
import Fanfolio.Release.PackOdds
import Fanfolio.FanEvents.Applications
import Fanfolio.FanEvents.EventList
import Fanfolio.Cards.ExpiredTrades
import Fanfolio.Shop.Products
import Fanfolio.Shop.ProductLinks
import Fanfolio.Points.Adjustments
import Fanfolio.Profile.Equipment
import Fanfolio.Framework.Base64
import Fanfolio.Framework.JsonText
import Fanfolio.SignedTokens
import Fanfolio.Cards.CodeStatus
import Fanfolio.Cards.CombinationOdds
import Fanfolio.Framework.Transducer
import Fanfolio.Framework.Utf8
import Fanfolio.Framework.JsonObject
import Fanfolio.Notifications.Stream
import Fanfolio.Framework.RotatingCredential
import Fanfolio.Identity.RefreshProtocol
import Fanfolio.Client.MediaCache
import Fanfolio.Framework.ReadCommitted
import Fanfolio.Social.Graph
import Fanfolio.Social.Discovery
import Fanfolio.Framework.Csv
import Fanfolio.Partners.Exports
import Fanfolio.Partners.RootAdmins
import Fanfolio.Partners.RoleRace
import Fanfolio.Framework.FixedWindow
import Fanfolio.SharedRateLimit
import Fanfolio.Assets.UploadScan

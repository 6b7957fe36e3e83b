import OperateBench.Core.Protocol

/-! # Profile scenarios

Four jurisdictions with their published profile, and the scenarios that are authored in
one of them. What the loader holds a scenario to is part of its type. Conversion between
UTC and a local calendar is a parameter, one function for every zone.
-/

namespace OperateBench.Profiles

open Foundation

section Dates

/-- A date of the calendar, by its day number. -/
structure CivilDate where
  ordinal : Int
  inCalendar : 1 ≤ ordinal ∧ ordinal ≤ 3652059
  deriving DecidableEq

namespace CivilDate

def isoformat (date : CivilDate) : String :=
  let (year, month, day) := Calendar.ofOrdinal date.ordinal
  fourDigits year ++ "-" ++ twoDigits month ++ "-" ++ twoDigits day

/-- `date + timedelta(days=days)`. -/
def addDays (date : CivilDate) (days : Int) : Except PyError CivilDate :=
  if h : 1 ≤ date.ordinal + days ∧ date.ordinal + days ≤ 3652059 then .ok ⟨_, h⟩
  else .error (.overflow "date value out of range")

/-- `(later - earlier).days` -/
def daysSince (later earlier : CivilDate) : Int := later.ordinal - earlier.ordinal

end CivilDate

/-- What the time zone data base says of every zone. -/
structure ZoneInfo where
  /-- The local date at an instant, in seconds since the epoch. -/
  localDate : String → Int → CivilDate
  /-- The last microsecond of a local date, in microseconds since the epoch. -/
  endOfDay : String → CivilDate → Int

end Dates

section Vocabulary

inductive ProfileId where
  | uk
  | de
  | usCa
  | auVic
  deriving DecidableEq

def ProfileId.text : ProfileId → String
  | uk => "UK"
  | de => "DE"
  | usCa => "US_CA"
  | auVic => "AU_VIC"

inductive Channel where
  | distance
  | inStore
  deriving DecidableEq

def Channel.text : Channel → String
  | distance => "distance"
  | inStore => "in_store"

inductive Reason where
  | changeOfMind
  | fault
  deriving DecidableEq

def Reason.text : Reason → String
  | changeOfMind => "change_of_mind"
  | fault => "fault"

inductive MerchantPolicy where
  | m0
  | m30
  deriving DecidableEq

def MerchantPolicy.text : MerchantPolicy → String
  | m0 => "M0"
  | m30 => "M30"

inductive Fault where
  | none
  | minor
  | major
  | unknown
  deriving DecidableEq

def Fault.text : Fault → String
  | none => "none"
  | minor => "minor"
  | major => "major"
  | unknown => "unknown"

inductive ConsumerChoice where
  | refund
  | repair
  | replacement
  deriving DecidableEq

def ConsumerChoice.text : ConsumerChoice → String
  | refund => "refund"
  | repair => "repair"
  | replacement => "replacement"

inductive TransactionProof where
  | orderReference
  | linkedSerial
  | unknown
  deriving DecidableEq

def TransactionProof.text : TransactionProof → String
  | orderReference => "order_reference"
  | linkedSerial => "linked_serial"
  | unknown => "unknown"

inductive PaymentMode where
  | normal
  | unknown
  | failed
  deriving DecidableEq

def PaymentMode.text : PaymentMode → String
  | normal => "normal"
  | unknown => "unknown"
  | failed => "failed"

end Vocabulary

section Profiles

/-- The published profile of a jurisdiction. Its legal texts, which nothing computes with, are
`texts`. -/
structure Profile where
  profileId : ProfileId
  profileVersion : String
  jurisdiction : String
  timezone : String
  currency : String
  includeStandardDelivery : Bool
  texts : Fields

def Profile.asDict (profile : Profile) : Value := .ofFields <|
  [("profile_id", .str profile.profileId.text), ("profile_version", .str profile.profileVersion),
    ("jurisdiction", .str profile.jurisdiction), ("timezone", .str profile.timezone),
    ("currency", .str profile.currency),
    ("rules", .ofFields [("include_standard_delivery", .bool profile.includeStandardDelivery)])] ++
      profile.texts.entries

/-- The pinned profiles, on the legal texts they carry. -/
def profiles (texts : ProfileId → Fields) : ProfileId → Profile
  | .uk => ⟨.uk, "2026-09-26.v1", "United Kingdom", "Europe/London", "GBP", true, texts .uk⟩
  | .de => ⟨.de, "2026-09-26.v1", "Germany", "Europe/Berlin", "EUR", true, texts .de⟩
  | .usCa => ⟨.usCa, "2026-09-26.v1", "California, United States", "America/Los_Angeles", "USD",
    false, texts .usCa⟩
  | .auVic => ⟨.auVic, "2026-09-26.v1", "Victoria, Australia", "Australia/Melbourne", "AUD",
    false, texts .auVic⟩

end Profiles

section Scenarios

/-- What a case is about, as the case record shows it. -/
structure Facts where
  profileId : ProfileId
  channel : Channel
  reason : Reason
  merchantPolicy : MerchantPolicy
  fault : Fault
  consumerChoice : ConsumerChoice
  transactionProof : TransactionProof
  ordinaryGoods : Bool
  jurisdictionStipulated : Bool
  disclosed : Bool
  policyDisplayProven : Bool
  unused : Bool
  rejectionTimelyStipulated : Bool
  originalPackaging : Bool
  purchaseDate : CivilDate
  deliveryDate : CivilDate
  noticeSentDate : CivilDate
  noticeReceivedDate : CivilDate
  priceMinor : Int
  standardDeliveryMinor : Int
  premiumDeliveryMinor : Int

def Facts.entries (facts : Facts) : List (String × Value) :=
  [("profile_id", .str facts.profileId.text), ("channel", .str facts.channel.text),
    ("reason", .str facts.reason.text), ("merchant_policy", .str facts.merchantPolicy.text),
    ("fault", .str facts.fault.text), ("consumer_choice", .str facts.consumerChoice.text),
    ("transaction_proof", .str facts.transactionProof.text),
    ("ordinary_goods", .bool facts.ordinaryGoods),
    ("jurisdiction_stipulated", .bool facts.jurisdictionStipulated),
    ("disclosed", .bool facts.disclosed),
    ("policy_display_proven", .bool facts.policyDisplayProven), ("unused", .bool facts.unused),
    ("rejection_timely_stipulated", .bool facts.rejectionTimelyStipulated),
    ("original_packaging", .bool facts.originalPackaging),
    ("purchase_date", .str facts.purchaseDate.isoformat),
    ("delivery_date", .str facts.deliveryDate.isoformat),
    ("notice_sent_date", .str facts.noticeSentDate.isoformat),
    ("notice_received_date", .str facts.noticeReceivedDate.isoformat),
    ("price_minor", .int facts.priceMinor),
    ("standard_delivery_minor", .int facts.standardDeliveryMinor),
    ("premium_delivery_minor", .int facts.premiumDeliveryMinor)]

/-- A statutory withdrawal from a distance sale. -/
def ProfileId.statutory (profileId : ProfileId) : Bool := profileId = .uk || profileId = .de

/-- The seconds of January 2026, the only month a scenario may start in. -/
def january : Int × Int := (1767225600, 1769904000)

structure Scenario (zone : ZoneInfo) (profiles : ProfileId → Profile) where
  facts : Facts
  proofDelayMinutes : Int
  paymentMode : PaymentMode
  claimLabelOnly : Bool
  start : Int
  dispatchDate : CivilDate
  price : 1 ≤ facts.priceMinor ∧ facts.priceMinor ≤ 100000
  delivery : 0 ≤ facts.standardDeliveryMinor ∧ facts.standardDeliveryMinor ≤ 1000000
  premium : 0 ≤ facts.premiumDeliveryMinor ∧ facts.premiumDeliveryMinor ≤ 1000000
  delay : 1 ≤ proofDelayMinutes ∧ proofDelayMinutes ≤ 28800
  chronology : facts.purchaseDate.ordinal ≤ facts.deliveryDate.ordinal ∧
    facts.deliveryDate.ordinal ≤ facts.noticeSentDate.ordinal ∧
    facts.noticeSentDate.ordinal ≤ facts.noticeReceivedDate.ordinal ∧
    facts.noticeReceivedDate.ordinal ≤ dispatchDate.ordinal
  pinned : january.1 ≤ start ∧ start < january.2
  received : facts.noticeReceivedDate.ordinal = start / 86400 + Calendar.epochOrdinal
  dispatched : dispatchDate.ordinal ≤
    (zone.localDate (profiles facts.profileId).timezone (start + proofDelayMinutes * 60)).ordinal
  timely : facts.profileId.statutory = true → facts.reason = .changeOfMind →
    facts.disclosed = true → dispatchDate.ordinal ≤ facts.noticeSentDate.ordinal + 14
  consistent : facts.reason = .changeOfMind → facts.fault = .none

namespace Scenario

variable {zone : ZoneInfo} {profiles : ProfileId → Profile} (scenario : Scenario zone profiles)

def startsAt : String := strftime scenario.start

def asDict : Value := .ofFields <| scenario.facts.entries ++
  [("proof_delay_minutes", .int scenario.proofDelayMinutes),
    ("payment_mode", .str scenario.paymentMode.text),
    ("claim_label_only", .bool scenario.claimLabelOnly), ("starts_at", .str scenario.startsAt),
    ("dispatch_date", .str scenario.dispatchDate.isoformat)]

end Scenario

end Scenarios

section Entitlement

inductive Entitlement where
  | refund
  | repair
  | review
  | denyVoluntary
  deriving DecidableEq

def Entitlement.text : Entitlement → String
  | refund => "refund"
  | repair => "repair"
  | review => "review"
  | denyVoluntary => "deny_voluntary"

/-- What the published rules grant on the facts. -/
def entitlement (facts : Facts) : Entitlement :=
  if !facts.ordinaryGoods || !facts.jurisdictionStipulated ||
      facts.transactionProof = .unknown then .review
  else if facts.reason = .fault then
    if facts.profileId ≠ .auVic || !facts.rejectionTimelyStipulated then .review
    else if facts.fault = .major && facts.consumerChoice = .refund then .refund
    else if facts.fault = .minor then .repair
    else .review
  else if facts.profileId.statutory then
    if !facts.disclosed || facts.channel ≠ .distance then .review
    else if facts.noticeSentDate.daysSince facts.deliveryDate ≤ 14 then .refund
    else .review
  else if !facts.policyDisplayProven then .review
  else if facts.merchantPolicy = .m0 then .denyVoluntary
  else if facts.noticeSentDate.daysSince facts.purchaseDate ≤ 30 && facts.unused then .refund
  else .denyVoluntary

end Entitlement

/-- The profile runtime on one scenario. -/
structure CommerceProfilesDomain where
  sha256 : Value → String
  zone : ZoneInfo
  texts : ProfileId → Fields
  /-- The digest of the authored file. -/
  contentDigest : String
  scenario : Scenario zone (profiles texts)

namespace CommerceProfilesDomain

variable (op : CommerceProfilesDomain)

def facts : Facts := op.scenario.facts

def profile : Profile := profiles op.texts op.facts.profileId

def profileDigest : String := op.sha256 op.profile.asDict

def scenarioDigest : String := op.sha256 op.scenario.asDict

/-- The identity a case is bound to. -/
def identity : List (String × Value) :=
  [("profile_id", .str op.profile.profileId.text),
    ("profile_version", .str op.profile.profileVersion),
    ("jurisdiction", .str op.profile.jurisdiction), ("profile_digest", .str op.profileDigest)]

end CommerceProfilesDomain

end OperateBench.Profiles

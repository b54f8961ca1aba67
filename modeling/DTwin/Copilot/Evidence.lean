import DTwin.Lib.OrderedMap
import DTwin.Lib.Text
import Mathlib.Data.Rat.Defs

/-!
# DTwin.Copilot.Evidence — what a tool result becomes, and what an answer is made of

`apps/web/lib/copilot/evidence.ts` and `caveats.ts`.  A JavaScript number is a rational or not finite.  Of a record
the fields are kept that an answer is checked against.  The texts in which the schema library words an issue are not
part of this repository; whether a document has one is (`AnswerDoc.parses`).
-/

namespace DTwin.Copilot

/-! ## Evidence -/

/-- A `number`. -/
inductive Num
  | finite (value : ℚ)
  | nonFinite
deriving DecidableEq

/-- What `data: unknown` may hold.  The keys of an object are distinct. -/
inductive Data
  | undefined
  | null
  | bool (b : Bool)
  | num (n : Num)
  | str (s : String)
  | arr (items : List Data)
  | obj (fields : List (String × Data))

inductive EvidenceKind | measured | simulated | configured
deriving DecidableEq

def EvidenceKind.name : EvidenceKind → String
  | .measured => "measured"
  | .simulated => "simulated"
  | .configured => "configured"

inductive CaveatId
  | SIM_ANALYTICALLY_VERIFIED | SIM_SYNTHETIC_WEATHER | SIM_UNIFORM_DELTA | SIM_UNMET_OWN_BAND
  | SIM_CONSTANT_COP_NO_SETBACK | SIM_PEAK_INTERVAL_MEAN | SIM_PLANT_RESIZED_PER_RUN | SIM_SUBSET | PARTIAL_COVERAGE
  | FLAGGED_EXCLUDED | PLANT_NOT_ALLOCATED | FLOORS_WITHIN_2PCT | METER_SUSPECT_BUCKETS
  | MAIN_VS_SUBMETERS_UNRECONCILED | NO_STATUS_HISTORY | NO_WEATHER_STORED | NO_SCHEDULED_START
deriving DecidableEq

/-- The catalogue order. -/
def CAVEAT_IDS : List CaveatId :=
  [.SIM_ANALYTICALLY_VERIFIED, .SIM_SYNTHETIC_WEATHER, .SIM_UNIFORM_DELTA, .SIM_UNMET_OWN_BAND,
    .SIM_CONSTANT_COP_NO_SETBACK, .SIM_PEAK_INTERVAL_MEAN, .SIM_PLANT_RESIZED_PER_RUN, .SIM_SUBSET, .PARTIAL_COVERAGE,
    .FLAGGED_EXCLUDED, .PLANT_NOT_ALLOCATED, .FLOORS_WITHIN_2PCT, .METER_SUSPECT_BUCKETS,
    .MAIN_VS_SUBMETERS_UNRECONCILED, .NO_STATUS_HISTORY, .NO_WEATHER_STORED, .NO_SCHEDULED_START]

def CaveatId.name : CaveatId → String
  | .SIM_ANALYTICALLY_VERIFIED => "SIM_ANALYTICALLY_VERIFIED"
  | .SIM_SYNTHETIC_WEATHER => "SIM_SYNTHETIC_WEATHER"
  | .SIM_UNIFORM_DELTA => "SIM_UNIFORM_DELTA"
  | .SIM_UNMET_OWN_BAND => "SIM_UNMET_OWN_BAND"
  | .SIM_CONSTANT_COP_NO_SETBACK => "SIM_CONSTANT_COP_NO_SETBACK"
  | .SIM_PEAK_INTERVAL_MEAN => "SIM_PEAK_INTERVAL_MEAN"
  | .SIM_PLANT_RESIZED_PER_RUN => "SIM_PLANT_RESIZED_PER_RUN"
  | .SIM_SUBSET => "SIM_SUBSET"
  | .PARTIAL_COVERAGE => "PARTIAL_COVERAGE"
  | .FLAGGED_EXCLUDED => "FLAGGED_EXCLUDED"
  | .PLANT_NOT_ALLOCATED => "PLANT_NOT_ALLOCATED"
  | .FLOORS_WITHIN_2PCT => "FLOORS_WITHIN_2PCT"
  | .METER_SUSPECT_BUCKETS => "METER_SUSPECT_BUCKETS"
  | .MAIN_VS_SUBMETERS_UNRECONCILED => "MAIN_VS_SUBMETERS_UNRECONCILED"
  | .NO_STATUS_HISTORY => "NO_STATUS_HISTORY"
  | .NO_WEATHER_STORED => "NO_WEATHER_STORED"
  | .NO_SCHEDULED_START => "NO_SCHEDULED_START"

inductive UnitId
  | kPerH | zoneH | kwh | kw | ppm | cmh | pct | m2 | m3 | min | count | kg | c | k | h | s
deriving DecidableEq

def UnitId.name : UnitId → String
  | .kPerH => "k_per_h"
  | .zoneH => "zone_h"
  | .kwh => "kwh"
  | .kw => "kw"
  | .ppm => "ppm"
  | .cmh => "cmh"
  | .pct => "pct"
  | .m2 => "m2"
  | .m3 => "m3"
  | .min => "min"
  | .count => "count"
  | .kg => "kg"
  | .c => "c"
  | .k => "k"
  | .h => "h"
  | .s => "s"

structure EvidenceRecord where
  kind : EvidenceKind
  caveats : List CaveatId
  data : Data

/-- `Readonly<Record<string, EvidenceRecord>>`. -/
abbrev Evidence := OrderedMap String EvidenceRecord

/-! ## Answers -/

structure Ref where
  evidenceId : String
  path : String
deriving DecidableEq

inductive Basis | measured | simulated | configured | derived
deriving DecidableEq

def Basis.name : Basis → String
  | .measured => "measured"
  | .simulated => "simulated"
  | .configured => "configured"
  | .derived => "derived"

/-- The basis of a figure that is cited from evidence of a kind. -/
def EvidenceKind.basis : EvidenceKind → Basis
  | .measured => .measured
  | .simulated => .simulated
  | .configured => .configured

inductive DeriveOp | difference | sum | percentChange
deriving DecidableEq

def DeriveOp.name : DeriveOp → String
  | .difference => "difference"
  | .sum => "sum"
  | .percentChange => "percent_change"

structure Derive where
  op : DeriveOp
  refs : List Ref
deriving DecidableEq

structure NumSegment where
  value : Num
  decimals : Num
  unit : UnitId
  basis : Basis
  ref : Option Ref
  derive : Option Derive
deriving DecidableEq

inductive Segment
  | text (text : String)
  | num (seg : NumSegment)
  | cite (evidenceIds : List String)
deriving DecidableEq

structure Paragraph where
  segments : List Segment

structure AnswerDoc where
  paragraphs : List Paragraph
  caveats : List CaveatId

/-! ## The schema of an answer -/

/-- `\d{1,2}` -/
def oneOrTwoDigits : List Char → Bool
  | [a] => a.isDigit
  | [a, b] => a.isDigit && b.isDigit
  | _ => false

def EVIDENCE_ID_RE (id : String) : Bool :=
  match id.toList with
  | ['C', '.', n] => '1' ≤ n && n ≤ '3'
  | 'T' :: n :: '.' :: 'E' :: m => '1' ≤ n && n ≤ '8' && oneOrTwoDigits m
  | 'K' :: '.' :: 'E' :: m => oneOrTwoDigits m
  | _ => false

def Ref.parses (r : Ref) : Bool :=
  EVIDENCE_ID_RE r.evidenceId && 1 ≤ Text.utf16Length r.path && Text.utf16Length r.path ≤ 120

def Derive.parses (d : Derive) : Bool := 2 ≤ d.refs.length && d.refs.length ≤ 6 && d.refs.all Ref.parses

/-- `z.number().finite()` -/
def Num.isFinite : Num → Bool
  | .finite _ => true
  | .nonFinite => false

/-- `z.number().int().min(0).max(3)` -/
def Num.isDecimals : Num → Bool
  | .finite q => q.den = 1 && 0 ≤ q.num && q.num ≤ 3
  | .nonFinite => false

def NumSegment.parses (seg : NumSegment) : Bool :=
  seg.value.isFinite && seg.decimals.isDecimals && seg.ref.all Ref.parses && seg.derive.all Derive.parses

def Segment.parses : Segment → Bool
  | .text prose => Text.utf16Length prose ≤ 600
  | .num seg => seg.parses
  | .cite evidenceIds => 1 ≤ evidenceIds.length && evidenceIds.length ≤ 6 && evidenceIds.all EVIDENCE_ID_RE

def Paragraph.parses (p : Paragraph) : Bool := 1 ≤ p.segments.length && p.segments.all Segment.parses

/-- `AnswerDoc.safeParse` succeeds, with the document it was given. -/
def AnswerDoc.parses (a : AnswerDoc) : Bool :=
  1 ≤ a.paragraphs.length && a.paragraphs.length ≤ 6 && a.paragraphs.all Paragraph.parses && a.caveats.length ≤ 16

/-! ## Caveats -/

def CAVEAT_TEXT : CaveatId → String
  | .SIM_ANALYTICALLY_VERIFIED =>
    "Model estimate: the simulator is analytically verified, not validated or calibrated against this " ++
      "building's meters. Treat differences as directional."
  | .SIM_SYNTHETIC_WEATHER =>
    "Weather is a synthetic clear-sky design day at the stated temperatures. No forecast or measured " ++
      "weather is stored, and its humidity is near-record, so cooling energy is likely overstated."
  | .SIM_UNIFORM_DELTA =>
    "Each scenario shifts every simulated zone's setpoint by the same amount for the whole period; a " ++
      "time-windowed pre-cool cannot be simulated yet."
  | .SIM_UNMET_OWN_BAND =>
    "Unmet hours are zone-hours outside the scenario's own shifted band, a test of the plant, not of " ++
      "comfort; comfort is reported against the designed band."
  | .SIM_CONSTANT_COP_NO_SETBACK =>
    "The model uses a constant plant efficiency and runs HVAC around the clock, so it can show peak " ++
      "shifting but never credits pre-cooling with efficiency."
  | .SIM_PEAK_INTERVAL_MEAN =>
    "Peak demand is an hourly mean over the simulated zones, not a 15-minute demand-charge peak."
  | .SIM_PLANT_RESIZED_PER_RUN =>
    "The simulator sizes plant from each scenario's own setpoint, which overstates a setpoint-raise " ++
      "saving."
  | .SIM_SUBSET =>
    "Only the named zones were simulated; totals cover those zones only."
  | .PARTIAL_COVERAGE =>
    "Some 5-minute periods had no good data; totals cover measured periods only and are not extrapolated."
  | .FLAGGED_EXCLUDED =>
    "Out-of-range samples are excluded from statistics and counted separately."
  | .PLANT_NOT_ALLOCATED =>
    "Chillers, pumps, cooling tower and EV charging are metered for the whole building and are not split " ++
      "by floor."
  | .FLOORS_WITHIN_2PCT =>
    "Measured per-floor energy differs by less than 2% between floors; no floor stands out in this data."
  | .METER_SUSPECT_BUCKETS =>
    "Some meter periods are flagged suspect (a counter reset, or implied demand above five times the " ++
      "median); the total without them is given beside the raw total, or is absent when no period is clean."
  | .MAIN_VS_SUBMETERS_UNRECONCILED =>
    "The main meter and the sub-meters do not reconcile in this data; any difference is unattributed, not " ++
      "plug load."
  | .NO_STATUS_HISTORY =>
    "Equipment status is current only; there is no history of status changes."
  | .NO_WEATHER_STORED =>
    "No measured or forecast outdoor weather is stored for this period, so behaviour cannot be attributed " ++
      "to weather."
  | .NO_SCHEDULED_START =>
    "Overrides take effect when approved and cannot be scheduled; ask again when the window opens."

/-- The caveat every simulated figure must carry, whatever the tool attached. -/
def SIMULATED_FIGURE_CAVEAT : CaveatId := .SIM_ANALYTICALLY_VERIFIED

/-- The caveat of a check of what control could do. -/
def CHECK_MODE_CAVEAT : CaveatId := .NO_SCHEDULED_START

/-- The lines the operator reads: each once, in catalogue order. -/
def caveatLines (ids : List CaveatId) : List String := (CAVEAT_IDS.filter (· ∈ ids)).map CAVEAT_TEXT

/-! ## Violations -/

inductive VerifyRule
  | shape | ref | derive | unit | basis | uncitable | valueMismatch | unitNumberInText | gluedFigure | caveatRequired
  | caveatUnsupported | unpairedTotal | bannedWord | invisibleCharacter | evidenceScope | tooLong
deriving DecidableEq

/-- What is wrong, before it is said where. -/
structure Fault where
  rule : VerifyRule
  detail : String
deriving DecidableEq

structure Violation where
  segment : Option ℕ
  rule : VerifyRule
  detail : String
deriving DecidableEq

end DTwin.Copilot

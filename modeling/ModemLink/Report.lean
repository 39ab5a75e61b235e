/-
Module: ModemLink.Report
Purpose: What came of a scenario, as text and as JSON.
Main exports: Report, Report.entries, Report.text
-/
import ModemLink.Calendar
import ModemLink.Json.Encode
import ModemLink.Ledger
import ModemLink.Modem.Worker

namespace ModemLink

/-- What came of a scenario. -/
structure Report where
  scenario : String
  seed : UInt64
  startedAt : Timestamp
  durationMs : Nat
  /-- Whether every request had an outcome before the bridge was shut down. -/
  settled : Bool
  outcomes : RequestKind.Table (Option KindOutcomes)
  /-- Changes of the fault status, oldest first. -/
  statusChanges : List FaultStatus
  indications : Nat
  locks : LockUsages
  modem : ModemStats
  /-- The bridge after it was shut down. -/
  diagnostics : Diagnostics

/-! ## JSON -/

open Json (field)

instance : Encode KindOutcomes where
  encode outcomes := .object
    [field "submitted" outcomes.submitted, field "ok" outcomes.ok,
      field "rejected" outcomes.rejected, field "unsupported" outcomes.unsupported,
      field "timed_out" outcomes.timedOut,
      field "channel_unavailable" outcomes.channelUnavailable]

instance : Encode ModemStats where
  encode stats := .object
    [field "requests" stats.requests, field "refused_versions" stats.refusedVersions,
      field "ignored" stats.ignored, field "responses" stats.responses,
      field "request_acks" stats.requestAcks, field "acks_received" stats.acksReceived,
      field "indications" stats.indications, field "dropped_by_crash" stats.droppedByCrash,
      ("per_kind", .byKind (stats.perKind.toList.filter (·.2 ≠ 0)))]

/-- The usage of a lock as it is at the end of a run. -/
def LockUsage.atEnd (usage : LockUsage) : Json :=
  .object
    [field "acquisitions" usage.acquisitions, field "releases" usage.releases,
      field "held_at_end" usage.held]

namespace Report

/-- The kinds that were handed in, in opcode order, with what became of them. -/
def entries (report : Report) : List (RequestKind × KindOutcomes) :=
  report.outcomes.present

/-- What became of the requests of a kind. -/
def outcomesFor (report : Report) (kind : RequestKind) : KindOutcomes :=
  (report.outcomes.get kind).getD {}

instance : Encode Report where
  encode report := .object
    [field "scenario" report.scenario, field "seed" report.seed,
      field "started_at" (report.startedAt.text "Z"), field "duration_ms" report.durationMs,
      field "settled" report.settled, ("outcomes", .byKind report.entries),
      field "bug_status_changes" report.statusChanges,
      field "indications_delivered" report.indications,
      ("primary_wake_lock", report.locks.primary.atEnd), ("ack_wake_lock", report.locks.ack.atEnd),
      field "modem" report.modem, field "diagnostics" report.diagnostics]

/-! ## Text -/

/-- A text with blanks after it, up to a width. -/
def padRight (width : Nat) (s : String) : String :=
  s ++ String.ofList (List.replicate (width - s.length) ' ')

/-- A text with blanks before it, up to a width. -/
def padLeft (width : Nat) (s : String) : String :=
  String.ofList (List.replicate (width - s.length) ' ') ++ s

/-- A row of the table of outcomes. -/
def row (name : String) (cells : List String) : String :=
  "  " ++ padRight 38 name ++ String.join (cells.map fun cell => " " ++ padLeft 6 cell)

/-- The row of a kind. -/
def kindRow (kind : RequestKind) (outcomes : KindOutcomes) : String :=
  row kind.label
    ([outcomes.submitted, outcomes.ok, outcomes.rejected, outcomes.unsupported, outcomes.timedOut,
      outcomes.channelUnavailable].map toString)

/-- The fault status at the end, or all its changes. -/
def statusText (report : Report) : String :=
  if report.statusChanges.isEmpty then report.diagnostics.faults.status.label
  else String.intercalate " -> " (report.statusChanges.map FaultStatus.label)

/-- The report for a reader, line by line. -/
def lines (report : Report) : List String :=
  let totals := report.diagnostics.totals
  [s!"Scenario {report.scenario} (seed {report.seed})",
    "  started:  " ++ report.startedAt.text "+00:00",
    s!"  duration: {report.durationMs} ms"]
  ++ (if report.settled then [] else ["  WARNING: requests were still pending at shutdown"])
  ++ [row "kind" ["sent", "ok", "rej", "unsup", "tmout", "chan"]]
  ++ report.entries.map (fun (kind, outcomes) => kindRow kind outcomes)
  ++ [s!"  fallbacks: {totals.fallbacks}  stale responses: {totals.staleAnswers}"
      ++ s!"  acks sent: {totals.acksSent}  lock timeouts: {totals.lockTimeouts}",
    s!"  primary wake lock: {report.locks.primary.acquisitions} acquired, "
      ++ s!"{report.locks.primary.releases} released",
    s!"  indications delivered: {report.indications}",
    "  bug status: " ++ report.statusText]

/-- The report for a reader. -/
def text (report : Report) : String :=
  String.intercalate "\n" report.lines

end Report

end ModemLink

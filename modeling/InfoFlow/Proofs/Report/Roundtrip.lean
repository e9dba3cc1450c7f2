import InfoFlow.Proofs.Json.Record
import InfoFlow.Report.Document

/-!
# Reports are read as they were written

A report is read back from its text, provided that its numbers fit in 64 bits (`Report.Sized`). The
one shape that is not a plain record is that of an outcome, whose fields stand beside the one that
says which outcome it is: `Outcome.status?_tagged` takes them apart again. The main result is
`Report.parse?_render`.
-/

namespace InfoFlow

open Json

/-- The name of a kind carries it. -/
lemma FlowKind.carries {d : Nat} (nothing : Json → Bool) (kind : FlowKind) :
    Carries d (ofJson? nothing) kind.toJson kind where
  plain := .str
  reads := by
    cases kind with
    | implicit => rfl
    | direct => rfl

namespace Finding

/-- The values of the fields of a finding. -/
def entries (f : Finding) : List (String × Option Json) :=
  [("channel", some (.str f.channel)), ("kind", some f.kind.toJson),
    ("witness", some (ofStrings f.witness))]

/-- The object of a finding carries it. -/
lemma carries (nothing : Json → Bool) (f : Finding) :
    Carries 2 (ofJson? nothing) f.toJson f where
  plain := .present f.entries
    ⟨.str, (f.kind.carries nothing).plain, (Carries.strings _).plain⟩
  reads := by
    have fields : f.toJson.record? ["channel", "kind", "witness"] =
        some (f.entries.map Prod.snd) :=
      record?_present f.entries (by simp [entries])
    have kind := (f.kind.carries (d := 0) nothing).required
    have witness := (Carries.strings f.witness (d := 0)).required
    unfold ofJson?
    rw [fields]
    simp only [entries, List.map_cons, List.map_nil, Option.bind_eq_bind, Option.bind_some,
      (Carries.str (d := 0)).required, kind, witness]
    rfl

end Finding

/-- The number fits in 64 bits. -/
def Fits64 (n : Nat) : Prop :=
  n < 18446744073709551616

/-- A number carries a count of 64 bits. -/
lemma Fits64.carries {n : Nat} (h : Fits64 n) : Carries 0 count? (ofNat n) n :=
  .count h

namespace Stats

/-- The sizes fit in 64 bits. -/
structure Sized (s : Stats) : Prop where
  locals : Fits64 s.locals
  params : Fits64 s.params
  controls : Fits64 s.controls
  dataEdges : Fits64 s.dataEdges
  controlEdges : Fits64 s.controlEdges
  tainted : Fits64 s.tainted

/-- The values of the fields of sizes. -/
def entries (s : Stats) : List (String × Option Json) :=
  [("locals", some (ofNat s.locals)), ("params", some (ofNat s.params)),
    ("controls", some (ofNat s.controls)), ("data_edges", some (ofNat s.dataEdges)),
    ("control_edges", some (ofNat s.controlEdges)), ("tainted", some (ofNat s.tainted))]

/-- Figures are read from an object with these fields. -/
lemma ofJson?_eq {value l p c d e t} {s : Stats}
    (fields : value.record?
      ["locals", "params", "controls", "data_edges", "control_edges", "tainted"] =
        some [l, p, c, d, e, t])
    (locals : required? count? l = some s.locals) (params : required? count? p = some s.params)
    (controls : required? count? c = some s.controls)
    (dataEdges : required? count? d = some s.dataEdges)
    (controlEdges : required? count? e = some s.controlEdges)
    (tainted : required? count? t = some s.tainted) : ofJson? value = some s := by
  unfold ofJson?
  simp only [fields, locals, params, controls, dataEdges, controlEdges, tainted,
    Option.bind_eq_bind, Option.bind_some]
  rfl

/-- The object of figures that fit carries them. -/
lemma Sized.carries {s : Stats} (h : s.Sized) : Carries 1 ofJson? s.toJson s where
  plain := .present s.entries ⟨h.locals.carries.plain, h.params.carries.plain,
    h.controls.carries.plain, h.dataEdges.carries.plain, h.controlEdges.carries.plain,
    h.tainted.carries.plain⟩
  reads := by
    have fields : s.toJson.record?
        ["locals", "params", "controls", "data_edges", "control_edges", "tainted"] =
          some (s.entries.map Prod.snd) :=
      record?_present s.entries (by simp [entries])
    exact ofJson?_eq fields h.locals.carries.required h.params.carries.required
      h.controls.carries.required h.dataEdges.carries.required h.controlEdges.carries.required
      h.tainted.carries.required

end Stats

namespace Summary

/-- The numbers of the summary fit in 64 bits. -/
structure Sized (s : Summary) : Prop where
  explicit : Fits64 s.explicit
  implicit : Fits64 s.implicit
  total : Fits64 s.total
  unitsAnalyzed : Fits64 s.unitsAnalyzed
  unitsSkipped : Fits64 s.unitsSkipped
  unitsFailed : Fits64 s.unitsFailed
  filesFailed : Fits64 s.filesFailed

/-- The values of the fields of a summary. -/
def entries (s : Summary) : List (String × Option Json) :=
  [("explicit", some (ofNat s.explicit)), ("implicit", some (ofNat s.implicit)),
    ("total", some (ofNat s.total)), ("units_analyzed", some (ofNat s.unitsAnalyzed)),
    ("units_skipped", some (ofNat s.unitsSkipped)), ("units_failed", some (ofNat s.unitsFailed)),
    ("files_failed", some (ofNat s.filesFailed))]

/-- A summary is read from an object with these fields; the number of files may be missing. -/
lemma ofJson?_eq {value e i t a k f l} {s : Summary}
    (fields : value.record?
      ["explicit", "implicit", "total", "units_analyzed", "units_skipped", "units_failed",
        "files_failed"] = some [e, i, t, a, k, f, l])
    (explicit : required? count? e = some s.explicit)
    (implicit : required? count? i = some s.implicit) (total : required? count? t = some s.total)
    (analyzed : required? count? a = some s.unitsAnalyzed)
    (skipped : required? count? k = some s.unitsSkipped)
    (failed : required? count? f = some s.unitsFailed)
    (files : withDefault? 0 count? l = some s.filesFailed) : ofJson? value = some s := by
  unfold ofJson?
  simp only [fields, explicit, implicit, total, analyzed, skipped, failed, files,
    Option.bind_eq_bind, Option.bind_some]
  rfl

/-- The object of a summary that fits carries it. -/
lemma Sized.carries {s : Summary} (h : s.Sized) : Carries 1 ofJson? s.toJson s where
  plain := .present s.entries ⟨h.explicit.carries.plain, h.implicit.carries.plain,
    h.total.carries.plain, h.unitsAnalyzed.carries.plain, h.unitsSkipped.carries.plain,
    h.unitsFailed.carries.plain, h.filesFailed.carries.plain⟩
  reads := by
    have fields : s.toJson.record?
        ["explicit", "implicit", "total", "units_analyzed", "units_skipped", "units_failed",
          "files_failed"] = some (s.entries.map Prod.snd) :=
      record?_present s.entries (by simp [entries])
    exact ofJson?_eq fields h.explicit.carries.required h.implicit.carries.required
      h.total.carries.required h.unitsAnalyzed.carries.required h.unitsSkipped.carries.required
      h.unitsFailed.carries.required h.filesFailed.carries.withDefault

end Summary

namespace BodyReport

/-- The values of the fields of the report on a body. -/
def entries (r : BodyReport) : List (String × Option Json) :=
  [("unit", some (.str r.unit)), ("findings", some (.arr (r.findings.map Finding.toJson))),
    ("stats", some r.stats.toJson)]

/-- An array of objects carries findings. -/
lemma findings_carries (findings : List Finding) :
    Carries 3 (listOf? (Finding.ofJson? isVacant)) (.arr (findings.map Finding.toJson)) findings :=
  .list fun f _ => f.carries isVacant

/-- The report on a body is read from its fields. -/
lemma reads {r : BodyReport} (sized : r.stats.Sized) : ofJson? (.obj r.fields) = some r := by
  have fields : record? ["unit", "findings", "stats"] (.obj r.fields) =
      some (r.entries.map Prod.snd) :=
    record?_present r.entries (by simp [entries])
  unfold ofJson?
  rw [fields]
  simp only [entries, List.map_cons, List.map_nil, Option.bind_eq_bind, Option.bind_some,
    (Carries.str (d := 0)).required, (findings_carries r.findings).required,
    sized.carries.required]
  rfl

end BodyReport

namespace Outcome

/-- The sizes in an outcome fit in 64 bits. -/
def Sized : Outcome → Prop
  | .analyzed report => report.stats.Sized
  | _ => True

/-- The status is taken off the fields that stand beside it. -/
lemma status?_tagged {status : Json} (entries : List (String × Option Json))
    (nodup : ("status" :: entries.map Prod.fst).Nodup) :
    status? (.obj (("status", status) :: present entries)) =
      some (status, .obj (present entries)) := by
  have once : fieldOnce? (("status", status) :: present entries) "status" = some (some status) :=
    fieldOnce?_present (("status", some status) :: entries) nodup List.mem_cons_self
  have others : ((("status", status) :: present entries).filter fun field => field.1 ≠ "status") =
      present entries := by
    rw [List.filter_cons_of_neg (by simp), List.filter_eq_self]
    intro field mem
    refine decide_eq_true ?_
    intro same
    refine (List.nodup_cons.1 nodup).1 (List.mem_map.2 ⟨_, mem_present.1 mem, same⟩)
  unfold status?
  simp only [once, others, Option.bind_eq_bind, Option.bind_some]
  rfl

/-- The values of the fields of an outcome without analysis, the status apart. -/
def reasonEntries (unit reason : String) : List (String × Option Json) :=
  [("unit", some (.str unit)), ("reason", some (.str reason))]

/-- An outcome without analysis as a JSON value. -/
def withReason (status unit reason : String) : Json :=
  .obj (("status", .str status) :: present (reasonEntries unit reason))

/-- The object of an outcome with a reason has no inner arrays or objects. -/
lemma withReason_plain (status unit reason : String) : Plain 4 (withReason status unit reason) := by
  have plain : Plain 1 (withReason status unit reason) :=
    .present (("status", some (.str status)) :: reasonEntries unit reason)
      ⟨.str, .str, .str⟩
  exact plain.mono (by decide)

/-- The status of an outcome is taken off the other fields of its object. -/
lemma status?_withReason (status unit reason : String) :
    status? (withReason status unit reason) =
      some (.str status, .obj (present (reasonEntries unit reason))) :=
  status?_tagged _ (by simp [reasonEntries])

/-- The reason is read from the other fields. -/
lemma reason?_reads (unit reason : String) :
    reason? (.obj (present (reasonEntries unit reason))) = some (unit, reason) := by
  have fields := record?_present (reasonEntries unit reason) (by simp [reasonEntries])
  unfold reason?
  rw [show ["unit", "reason"] = (reasonEntries unit reason).map Prod.fst from rfl, fields]
  rfl

/-- The object of an outcome that fits carries it, whatever its status. -/
lemma Sized.carries {o : Outcome} (sized : o.Sized) : Carries 4 ofJson? o.toJson o := by
  cases o with
  | analyzed report =>
    have stats : Carries 1 Stats.ofJson? report.stats.toJson report.stats :=
      Stats.Sized.carries sized
    refine ⟨?_, ?_⟩
    · exact .present (("status", some (.str "analyzed")) :: report.entries)
        ⟨.str, .str, (BodyReport.findings_carries report.findings).plain,
          stats.plain.mono (by decide)⟩
    · have split : status? (toJson (.analyzed report)) =
          some (.str "analyzed", .obj report.fields) :=
        status?_tagged report.entries (by simp [BodyReport.entries])
      unfold ofJson?
      rw [split]
      simp only [Option.bind_eq_bind, Option.bind_some, str?, if_true, BodyReport.reads sized]
      rfl
  | skipped unit reason =>
    refine ⟨withReason_plain "skipped" unit reason, ?_⟩
    unfold ofJson?
    rw [show toJson (.skipped unit reason) = withReason "skipped" unit reason from rfl,
      status?_withReason]
    simp only [Option.bind_eq_bind, Option.bind_some, str?, reason?_reads]
    rfl
  | failed unit reason =>
    refine ⟨withReason_plain "failed" unit reason, ?_⟩
    unfold ofJson?
    rw [show toJson (.failed unit reason) = withReason "failed" unit reason from rfl,
      status?_withReason]
    simp only [Option.bind_eq_bind, Option.bind_some, str?, reason?_reads]
    rfl

end Outcome

namespace LoadFailure

/-- The values of the fields of a file that could not be loaded. -/
def entries (f : LoadFailure) : List (String × Option Json) :=
  [("path", some (.str f.path)), ("reason", some (.str f.reason))]

/-- The object of a failure carries it. -/
lemma carries (f : LoadFailure) : Carries 1 ofJson? f.toJson f where
  plain := .present f.entries ⟨.str, .str⟩
  reads := by
    have fields : f.toJson.record? ["path", "reason"] = some (f.entries.map Prod.snd) :=
      record?_present f.entries (by simp [entries])
    unfold ofJson?
    rw [fields]
    rfl

end LoadFailure

namespace Metadata

/-- The values of the fields of the origin of a report. -/
def entries (m : Metadata) : List (String × Option Json) :=
  [("version", some (.str m.version)), ("timestamp", some (.str m.timestamp)),
    ("source", some (.str m.source))]

/-- The object of the metadata carries them. -/
lemma carries (m : Metadata) : Carries 1 ofJson? m.toJson m where
  plain := .present m.entries ⟨.str, .str, .str⟩
  reads := by
    have fields : m.toJson.record? ["version", "timestamp", "source"] =
        some (m.entries.map Prod.snd) :=
      record?_present m.entries (by simp [entries])
    unfold ofJson?
    rw [fields]
    rfl

end Metadata

namespace Report

/-- All numbers of the report fit in 64 bits. -/
structure Sized (r : Report) : Prop where
  units : ∀ o ∈ r.units, o.Sized
  summary : r.summary.Sized

/-- The values of the fields of a report. -/
def entries (r : Report) : List (String × Option Json) :=
  [("metadata", some r.metadata.toJson), ("units", some (.arr (r.units.map Outcome.toJson))),
    ("load_failures", some (.arr (r.loadFailures.map LoadFailure.toJson))),
    ("summary", some r.summary.toJson)]

/-- The object of a report that fits carries it. -/
lemma Sized.carries {r : Report} (sized : r.Sized) : Carries 6 ofJson? r.toJson r := by
  have units : Carries 5 (listOf? Outcome.ofJson?) (.arr (r.units.map Outcome.toJson)) r.units :=
    .list fun o mem => (sized.units o mem).carries
  have failures : Carries 2 (listOf? LoadFailure.ofJson?)
      (.arr (r.loadFailures.map LoadFailure.toJson)) r.loadFailures :=
    .list fun f _ => f.carries
  refine ⟨?_, ?_⟩
  · exact .present r.entries
      ⟨r.metadata.carries.plain.mono (by decide), units.plain, failures.plain.mono (by decide),
        sized.summary.carries.plain.mono (by decide)⟩
  · have fields : r.toJson.record? ["metadata", "units", "load_failures", "summary"] =
        some (r.entries.map Prod.snd) :=
      record?_present r.entries (by simp [entries])
    unfold ofJson?
    rw [fields]
    simp only [entries, List.map_cons, List.map_nil, Option.bind_eq_bind, Option.bind_some,
      r.metadata.carries.required, units.required, failures.withDefault,
      sized.summary.carries.required]
    rfl

/-- A report that fits is read back from its text. -/
lemma Sized.parse? {r : Report} (sized : r.Sized) : Report.parse? r.render = some r := by
  have read : Json.parse r.render = .ok r.toJson :=
    parse_write (sized.carries.plain.mono (by decide)) Layout.indented_airy
  unfold Report.parse?
  rw [read]
  exact sized.carries.reads

/-- A report whose numbers fit in 64 bits is read back from its text, and what was read is written
as the same text again. -/
theorem parse?_render (r : Report) (sized : r.Sized) :
    parse? r.render = some r ∧ (parse? r.render).map render = some r.render := by
  have read := sized.parse?
  refine ⟨read, ?_⟩
  rw [read]
  rfl

/-- A report with every outcome, with characters that are escaped and with the largest number. -/
def audited : Report where
  metadata := ⟨"0.1.0", "0", "a\\b\"c"⟩
  units := [.analyzed ⟨"f\n",
      [⟨"<return>", .direct, ["param0", "<return>"]⟩, ⟨"this", .implicit, []⟩],
      ⟨0, 1, 18446744073709551615, 2, 3, 4⟩⟩,
    .skipped "status" "\x01", .failed "" "é"]
  loadFailures := [⟨"x.json", "\t"⟩]
  summary := ⟨1, 1, 2, 1, 1, 1, 1⟩

/-- The report `audited` has an outcome of each status, and is read back. -/
theorem audited_parse?_render :
    audited.Sized ∧ parse? audited.render = some audited ∧
      (parse? audited.render).map render = some audited.render := by
  have fits : ∀ {n : Nat}, n ≤ 18446744073709551615 → Fits64 n := Nat.lt_succ_of_le
  have sized : audited.Sized := by
    refine ⟨?_, ?_⟩
    · intro o mem
      simp only [audited, List.mem_cons, List.not_mem_nil, or_false] at mem
      rcases mem with rfl | rfl | rfl
      · exact ⟨fits (by decide), fits (by decide), fits (by decide), fits (by decide),
          fits (by decide), fits (by decide)⟩
      · trivial
      · trivial
    · exact ⟨fits (by decide), fits (by decide), fits (by decide), fits (by decide),
        fits (by decide), fits (by decide), fits (by decide)⟩
  exact ⟨sized, parse?_render audited sized⟩

end Report

end InfoFlow

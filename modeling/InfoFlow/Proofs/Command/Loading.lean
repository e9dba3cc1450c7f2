import InfoFlow.Proofs.Command.Files
import InfoFlow.Proofs.Verdict.ExitStatus

/-!
# What is loaded

Every facts file that a path stands for adds all bodies of its document to the report, or one
failure. `LoadsAs` says which, from the content of the file alone, and `FileTree.loadsAs` says
that the program does so.

The main result is `check_accounts`: the report is made of these accounts, one for each file, and a
file that cannot be loaded shows in the exit status. A path that leads nowhere stands for no files,
and so `check` has nothing to complain about; nor does it complain about a directory that cannot be
listed, whose files it does not find.
-/

namespace InfoFlow

open Facts FileTree

/-- What the report has from the file at a path: the bodies of its document or one failure. -/
inductive LoadsAs (file : String) : Entry → List BodyFacts × List LoadFailure → Prop where
  | loaded {content text bodies} :
    file.utf8ByteSize ≤ pathLimit →
    String.fromUTF8? content = some text →
    Facts.parse text = .ok bodies →
    LoadsAs file (.file content) (bodies, [])
  | unparsable {content text e} :
    file.utf8ByteSize ≤ pathLimit →
    String.fromUTF8? content = some text →
    Facts.parse text = .error e →
    LoadsAs file (.file content) ([], [LoadError.failure file (.unparsable e)])
  | notText {content} :
    file.utf8ByteSize ≤ pathLimit →
    String.fromUTF8? content = none →
    LoadsAs file (.file content) ([], [LoadError.failure file (.unreadable .notText)])
  | unreadable {e} :
    file.utf8ByteSize ≤ pathLimit →
    LoadsAs file (.unreadable e) ([], [LoadError.failure file (.unreadable e)])
  | directory :
    file.utf8ByteSize ≤ pathLimit →
    LoadsAs file .directory ([], [LoadError.failure file (.unreadable .isADirectory)])
  | unlisted {e} :
    file.utf8ByteSize ≤ pathLimit →
    LoadsAs file (.unlisted e) ([], [LoadError.failure file (.unreadable e)])
  | nameTooLong {entry} :
    pathLimit < file.utf8ByteSize →
    LoadsAs file entry ([], [LoadError.failure file (.unreadable .nameTooLong)])

namespace FileTree

variable {t : FileTree} {path file : String} {entry : Entry}

/-- What the program adds to the report for a file. -/
def account (t : FileTree) (file : String) : List BodyFacts × List LoadFailure :=
  (t.bodiesOf file, (t.failureOf file).toList)

/-- A file that can be loaded adds its bodies and no failure. -/
lemma account_ok {bodies} (loaded : t.load file = .ok bodies) : t.account file = (bodies, []) := by
  unfold account bodiesOf failureOf
  rw [loaded]
  rfl

/-- A file that cannot be loaded adds its failure and no bodies. -/
lemma account_error {e} (failed : t.load file = .error e) :
    t.account file = ([], [e.failure file]) := by
  unfold account bodiesOf failureOf
  rw [failed]
  rfl

/-- What cannot be read is one failure. -/
lemma account_unreadable {e} (refused : t.read file = .error e) :
    t.account file = ([], [LoadError.failure file (.unreadable e)]) := by
  apply account_error
  unfold load
  rw [refused]

/-- The program accounts for everything that a path stands for. -/
lemma loadsAs (proper : t.Proper) (stands : t.StandsFor path file entry) :
    LoadsAs file entry (t.account file) := by
  have found := stands.lookup proper
  by_cases short : file.utf8ByteSize ≤ pathLimit
  · rw [if_pos short] at found
    cases entry with
    | directory =>
      have refused : t.read file = .error .isADirectory := by
        unfold read
        rw [found]
        rfl
      rw [account_unreadable refused]
      exact .directory short
    | unlisted e =>
      have refused : t.read file = .error e := by
        unfold read
        rw [found]
        rfl
      rw [account_unreadable refused]
      exact .unlisted short
    | unreadable e =>
      have refused : t.read file = .error e := by
        unfold read
        rw [found]
        rfl
      rw [account_unreadable refused]
      exact .unreadable short
    | file content =>
      cases decoded : String.fromUTF8? content with
      | none =>
        have refused : t.read file = .error .notText := by
          unfold read
          rw [found]
          simp only [bind, Except.bind, decoded]
          rfl
        rw [account_unreadable refused]
        exact .notText short decoded
      | some text =>
        have read : t.read file = .ok text := read_file found decoded
        cases parsed : Facts.parse text with
        | ok bodies =>
          rw [account_ok (load_file read parsed)]
          exact .loaded short decoded parsed
        | error e =>
          have failed : t.load file = .error (.unparsable e) := by
            unfold load
            rw [read]
            simp only [parsed]
          rw [account_error failed]
          exact .unparsable short decoded parsed
  · rw [if_neg short] at found
    have refused : t.read file = .error .nameTooLong := by
      unfold read
      rw [found]
      rfl
    rw [account_unreadable refused]
    exact .nameTooLong (Nat.not_le.1 short)

/-- The report is made of the accounts of all files. -/
lemma report_eq (timestamp : String) (config : Config) :
    t.report timestamp path config =
      .new timestamp path (outcomes config (((t.factFiles path).map t.account).flatMap Prod.fst))
        (((t.factFiles path).map t.account).flatMap Prod.snd) := by
  change Report.new timestamp path (outcomes config ((t.factFiles path).flatMap t.bodiesOf))
    ((t.factFiles path).filterMap t.failureOf) = _
  rw [List.filterMap_eq_flatMap_toList, List.flatMap_map, List.flatMap_map]
  rfl

end FileTree

section

variable {t : FileTree} {args : List String} {o : CheckOptions} {pool : Pool} {colour : Bool}
  {timestamp : String}

/-- A run of `check` that does not fail is what the program leaves behind. -/
lemma runProgram_ok {output} (parsed : Usage.parse args = .ok (.check o))
    (ran : Command.runCheck pool colour timestamp t o = .ok output) :
    runProgram pool colour timestamp t args = output := by
  unfold runProgram
  rw [parsed]
  simp only [Command.run, ran]

/-- A run of `check` that fails is told as such. -/
lemma runProgram_error {failure} (parsed : Usage.parse args = .ok (.check o))
    (ran : Command.runCheck pool colour timestamp t o = .error failure) :
    runProgram pool colour timestamp t args = failure.output := by
  unfold runProgram
  rw [parsed]
  simp only [Command.run, ran]

/-- A failure to load a file shows in the exit status, also if the report cannot be delivered. -/
lemma exitCode_ne_zero (parsed : Usage.parse args = .ok (.check o))
    (failed : (t.report timestamp o.path o.config).hasLoadFailures = true) :
    (runProgram pool colour timestamp t args).exitCode ≠ 0 := by
  cases ran : Command.runCheck pool colour timestamp t o with
  | error failure =>
    rw [runProgram_error parsed ran]
    exact Nat.one_ne_zero
  | ok output =>
    rw [runProgram_ok parsed ran, Command.runCheck_exitCode ran]
    unfold Report.exitCode
    rw [failed, Bool.or_true, Bool.true_or, if_pos rfl]
    split
    case isTrue => decide
    case isFalse => decide

/-- Where there are no files, the report that is printed has nothing to complain about. -/
lemma exitCode_eq_zero (parsed : Usage.parse args = .ok (.check o)) (printed : o.output = none)
    (granted : pool.refused? o.config = none) (noFiles : t.factFiles o.path = []) :
    (runProgram pool colour timestamp t args).exitCode = 0 := by
  have report : t.report timestamp o.path o.config = .new timestamp o.path [] [] := by
    rw [report_eq, noFiles]
    rfl
  obtain ⟨output, ran⟩ : ∃ output, Command.runCheck pool colour timestamp t o = .ok output :=
    Command.runCheck_printed printed granted
  rw [runProgram_ok parsed ran, Command.runCheck_exitCode ran, report]
  unfold Report.exitCode
  cases o.config.strict with
  | false => rfl
  | true => rfl

end

/-- Every facts file that the path stands for is found once and accounts for all bodies of its
document or for one failure. If one cannot be loaded, be it that it cannot be read, the run does not
end well. A path that leads nowhere and directories that cannot be listed are errors of the walk
alone. The former stands for no files, nothing below the latter is found, and neither is held
against the run. -/
theorem check_accounts {t : FileTree} (proper : t.Proper) {args : List String} {o : CheckOptions}
    (parsed : Usage.parse args = .ok (.check o)) (pool : Pool) (colour : Bool)
    (timestamp : String) :
    (t.factFiles o.path).Nodup ∧
      (∀ file, file ∈ t.factFiles o.path ↔ ∃ entry, t.StandsFor o.path file entry) ∧
      (∃ parts,
        List.Forall₂ (fun file part => ∃ entry, t.StandsFor o.path file entry ∧
          LoadsAs file entry part) (t.factFiles o.path) parts ∧
        t.report timestamp o.path o.config =
          .new timestamp o.path (outcomes o.config (parts.flatMap Prod.fst))
            (parts.flatMap Prod.snd)) ∧
      (∀ file entry, t.StandsFor o.path file entry →
        (∀ bodies, ¬ LoadsAs file entry (bodies, [])) →
        (runProgram pool colour timestamp t args).exitCode ≠ 0) ∧
      (∀ e, .error e ∈ t.walk o.path ↔ t.lookup o.path = .error e ∨
        ∃ l d, t.locate o.path = .ok l ∧ (∀ name ∈ d, Path.IsName name) ∧ t.Opens o.path l d ∧
          t.Blocks o.path l d e) ∧
      (∀ l above rest e, t.locate o.path = .ok l → t.Blocks o.path l above e → rest ≠ [] →
        (∀ name ∈ above ++ rest, Path.IsName name) →
        Path.join o.path (above ++ rest) ∉ t.factFiles o.path) ∧
      (∀ e, t.lookup o.path = .error e ∨
          t.lookup o.path = .ok (.unlisted e) ∧ Path.isFacts o.path = false →
        t.factFiles o.path = [] ∧ (o.output = none → pool.refused? o.config = none →
          (runProgram pool colour timestamp t args).exitCode = 0)) := by
  refine ⟨nodup_factFiles proper, fun file => mem_factFiles proper,
    ⟨(t.factFiles o.path).map t.account, ?_, report_eq timestamp o.config⟩, ?_,
    fun e => error_mem_walk proper, fun l above rest e => blocks_not_mem proper, ?_⟩
  · rw [List.forall₂_map_right_iff, List.forall₂_same]
    intro file mem
    obtain ⟨entry, stands⟩ := (mem_factFiles proper).1 mem
    exact ⟨entry, stands, loadsAs proper stands⟩
  · intro file entry stands unloadable
    apply exitCode_ne_zero parsed
    rw [report_eq, Report.hasLoadFailures_new]
    intro noFailures
    -- the account of the file would have no failure
    have account := loadsAs proper stands
    have mem : t.account file ∈ (t.factFiles o.path).map t.account :=
      List.mem_map_of_mem ((mem_factFiles proper).2 ⟨entry, stands⟩)
    have none : (t.account file).2 = [] := List.flatMap_eq_nil_iff.1 noFailures _ mem
    exact unloadable (t.account file).1 (none ▸ account)
  · intro e hidden
    have noFiles : t.factFiles o.path = [] := by
      rcases hidden with missing | ⟨unlisted, other⟩
      · exact factFiles_eq_nil missing
      · exact factFiles_unlisted proper unlisted other
    exact ⟨noFiles, fun printed granted => exitCode_eq_zero parsed printed granted noFiles⟩

/-- A directory with a facts file that was cut off, another one inside a directory that is called
like a facts file, a file of another kind, and a third facts file inside a directory that cannot be
listed. -/
def truncatedTree : FileTree where
  entries := [(["facts"], .directory), (["facts", "a.json"], .file guardedText.toUTF8),
    (["facts", "sub.json"], .directory), (["facts", "sub.json", "b.json"], .file "\x7b".toUTF8),
    (["facts", "notes.txt"], .file .empty), (["facts", "locked"], .unlisted .denied),
    (["facts", "locked", "c.json"], .file guardedText.toUTF8)]

/-- The files of `truncatedTree` could be on a disk. -/
lemma truncatedTree_proper : truncatedTree.Proper where
  distinct := by decide
  nested := by
    simp only [truncatedTree, List.forall_mem_cons, List.not_mem_nil, false_implies, implies_true,
      and_true]
    exact ⟨⟨_, rfl, rfl⟩, ⟨_, rfl, rfl⟩, ⟨_, rfl, rfl⟩, ⟨_, rfl, rfl⟩, ⟨_, rfl, rfl⟩, ⟨_, rfl, rfl⟩,
      ⟨_, rfl, rfl⟩⟩
  named := by decide +kernel

/-- The cut off file of `truncatedTree` shows in the exit status, and the file in the directory that
cannot be listed is not found. -/
theorem truncatedTree_accounts :
    truncatedTree.StandsFor "facts/" "facts/sub.json/b.json" (.file "\x7b".toUTF8) ∧
      (runProgram .unlimited false "" truncatedTree
        ["check", "facts/", "-f", "json"]).exitCode ≠ 0 ∧
      Path.join "facts/" (["locked"] ++ ["c.json"]) ∉ truncatedTree.factFiles "facts/" := by
  have isName : ∀ name ∈ ["sub.json", "b.json"], Path.IsName name := by decide +kernel
  have stands : truncatedTree.StandsFor "facts/" (Path.join "facts/" ["sub.json", "b.json"])
      (.file "\x7b".toUTF8) := by
    refine .inside (l := ["facts"]) rfl ⟨_, rfl, rfl⟩ ?_ (by decide) isName (by decide)
      (isListed_iff.1 rfl)
    simp [truncatedTree]
  have parsed : Usage.parse ["check", "facts/", "-f", "json"] =
      .ok (.check ⟨"facts/", "json", none, false, none, false⟩) := by decide +kernel
  obtain ⟨-, -, -, counted, -, hidden, -⟩ :=
    check_accounts truncatedTree_proper parsed .unlimited false ""
  refine ⟨stands, counted _ _ stands ?_, ?_⟩
  · intro bodies account
    cases account with
    | loaded _ decoded parsed =>
      have text : String.fromUTF8? "\x7b".toUTF8 = some "\x7b" := by decide +kernel
      have refused : (Facts.parse "\x7b").toOption = none := by decide +kernel
      rw [text] at decoded
      cases decoded
      rw [parsed] at refused
      cases refused
  · exact hidden ["facts"] ["locked"] ["c.json"] .denied rfl (.unlisted rfl (by decide)) (by decide)
      (by decide +kernel)

/-- A path that leads nowhere is no reason for a run to fail. -/
theorem check_missing_path :
    FileTree.empty.lookup "missing.json" = .error .notFound ∧
      (runProgram .unlimited false "0" .empty
        ["check", "missing.json", "-f", "json"]).exitCode = 0 := by
  refine ⟨rfl, ?_⟩
  decide +kernel

end InfoFlow

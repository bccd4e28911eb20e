import EnvInject.Proofs.Replacement.Pass

/-!
# What the check for changes sees

Before a file is written, each of its recorded tokens must still stand where it was found. That is
less than being a token of the file as it is now: a longer name may have taken the place of the old
one, or the token may have come to lie in the name of another one (`mem_tokens_iff`). The check
compares bytes, and such a file is written.

If the records lead to different files, a record finds in its file what was there when the
replacement began (`Pass.of_apart`), so its course can be told from the tree at that time.
-/

namespace EnvInject

open Placeholder

/-- The records lead to different files, those that lead to a file at all. -/
def Apart (tree : FileTree) (records : List FileRecord) : Prop :=
  records.Pairwise fun a b =>
    ∀ id ∈ tree.regularFile? a.path, tree.regularFile? b.path ≠ some id

instance (tree : FileTree) (records : List FileRecord) : Decidable (Apart tree records) :=
  inferInstanceAs (Decidable (List.Pairwise _ _))

variable {values : String → Option String} {tree next final : FileTree}
  {records written : List FileRecord} {record : FileRecord} {contents : Bytes}
  {failure : Option Failure}

theorem FileTree.canWrite_withContents (tree : FileTree) (path : Path) (contents : Bytes)
    (other : Path) : (tree.withContents path contents).canWrite other = tree.canWrite other := by
  rw [canWrite, canWrite, withContents, find?_mapContents]
  cases tree.find? other with
  | error cause => rfl
  | ok place =>
    rcases place with ⟨id, kind, mode⟩
    cases kind <;> rfl

/-! ## Other files stay as they are -/

theorem Rewrites.regularFile?_eq (rewrites : Rewrites values tree record contents next)
    (path : Path) : next.regularFile? path = tree.regularFile? path := by
  rw [rewrites.next_eq]
  exact FileTree.regularFile?_mapContents _ tree path

theorem Rewrites.canWrite_eq (rewrites : Rewrites values tree record contents next)
    (path : Path) : next.canWrite path = tree.canWrite path := by
  rw [rewrites.next_eq]
  exact tree.canWrite_withContents _ _ path

theorem Rewrites.read_eq {path : Path} (rewrites : Rewrites values tree record contents next)
    (apart : ∀ id, tree.regularFile? record.path = some id → tree.regularFile? path ≠ some id) :
    next.read path = tree.read path := by
  rw [rewrites.next_eq]
  exact FileTree.read_withContents_of_apart apart _

theorem Rewrites.apart (rewrites : Rewrites values tree record contents next)
    (apart : Apart tree records) : Apart next records := by
  simpa only [Apart, rewrites.regularFile?_eq] using apart

/-- A record that stops a pass would have stopped one in a tree with the same file behind it. -/
theorem Stops.of_eq {cause : Failure} (stops : Stops next record cause)
    (read : next.read record.path = tree.read record.path)
    (canWrite : next.canWrite record.path = tree.canWrite record.path) :
    Stops tree record cause := by
  cases stops with
  | unreadable fails => exact .unreadable (read ▸ fails)
  | changed reads member gone => exact .changed (read ▸ reads) member gone
  | unwritable reads stand locked => exact .unwritable (read ▸ reads) stand (canWrite ▸ locked)

/-- A pass keeps a file that none of its records leads to. -/
theorem Pass.read_eq {path : Path} (pass : Pass values tree records written final failure)
    (apart : ∀ record ∈ records, ∀ id, tree.regularFile? record.path = some id →
      tree.regularFile? path ≠ some id) : final.read path = tree.read path := by
  induction pass with
  | done => rfl
  | stopped stops => rfl
  | @written tree next final record rest written contents failure rewrites later ih =>
    have restApart : ∀ other ∈ rest, ∀ id, next.regularFile? other.path = some id →
        next.regularFile? path ≠ some id := by
      intro other member
      simp only [rewrites.regularFile?_eq]
      exact apart other (List.mem_cons_of_mem _ member)
    rw [ih restApart]
    exact rewrites.read_eq (apart record List.mem_cons_self)

/-- If the records lead to different files, each is written or stops the pass for what its file held
before the first write. -/
theorem Pass.of_apart (pass : Pass values tree records written final failure)
    (apart : Apart tree records) :
    (∀ record ∈ written, ∃ contents, tree.read record.path = .ok contents ∧
      (∀ token ∈ record.tokens, token.Stands contents) ∧
      final.read record.path = .ok (filled values contents record.tokens)) ∧
    ∀ record, records[written.length]? = some record →
      final.read record.path = tree.read record.path ∧
        ∃ cause, failure = some cause ∧ Stops tree record cause := by
  induction pass with
  | done => simp
  | stopped stops =>
    refine ⟨by simp, fun record behind => ?_⟩
    obtain rfl := Option.some.inj behind
    exact ⟨rfl, _, rfl, stops⟩
  | @written tree next final record rest written contents failure rewrites later ih =>
    obtain ⟨fromRecord, restApart⟩ := List.pairwise_cons.1 apart
    obtain ⟨restWritten, restStopped⟩ := ih (rewrites.apart restApart)
    have unread : ∀ other ∈ rest, next.read other.path = tree.read other.path :=
      fun other member => rewrites.read_eq (fromRecord other member)
    have notBehind : ∀ other ∈ rest, ∀ id, next.regularFile? other.path = some id →
        next.regularFile? record.path ≠ some id := by
      intro other member id isOther isRecord
      rw [rewrites.regularFile?_eq] at isOther isRecord
      exact fromRecord other member id isRecord isOther
    refine ⟨fun other member => ?_, fun other behind => ?_⟩
    · rcases List.mem_cons.1 member with rfl | inRest
      · refine ⟨contents, rewrites.reads, rewrites.stand, ?_⟩
        rw [later.read_eq notBehind, rewrites.next_eq]
        exact FileTree.read_withContents rewrites.reads _
      · rw [← unread other (later.written_prefix.subset inRest)]
        exact restWritten other inRest
    · rw [List.length_cons, List.getElem?_cons_succ] at behind
      obtain ⟨kept, cause, fails, stops⟩ := restStopped other behind
      have same := unread other (List.mem_of_getElem? behind)
      exact ⟨kept.trans same, cause, fails, stops.of_eq same (rewrites.canWrite_eq _)⟩

/-! ## What is checked -/

/-- A token of some contents is a token of others exactly if it stands there, no byte of a name
follows it and it does not begin within another token. -/
theorem mem_tokens_iff_of_mem {old : Bytes} {token : Token} (wasToken : token ∈ tokens old) :
    token ∈ tokens contents ↔ token.Stands contents ∧
      (∀ byte, contents[token.span.stop]? = some byte → byte ∉ partClass) ∧
      ∀ other ∈ tokens contents,
        ¬(other.span.start < token.span.start ∧ token.span.start < other.span.stop) := by
  have name := ((tokens_leftmostMatches old).matching token wasToken).name
  rw [mem_tokens_iff]
  constructor
  · rintro ⟨isMatch, notWithin⟩
    exact ⟨isMatch.stands, isMatch.longest, notWithin⟩
  · rintro ⟨stands, longest, notWithin⟩
    exact ⟨⟨stands, name, longest⟩, notWithin⟩

/-- A replacement writes a file only if all recorded tokens stand in it, and reports a file that it
can read as changed exactly if one does not. Recorded tokens that stand are tokens of the file
unless a byte of a name follows them or they begin within another token. -/
theorem replace_checks_tokens {before : FileTree} {selected : List FileRecord} {found : Scan}
    (scanned : scan before (.ofFunction values) selected = .ok found)
    (set : found.checklist.missing = []) (apart : Apart tree found.files) :
    let replacement := replace tree found
    (∀ record ∈ replacement.written, ∃ contents, tree.read record.path = .ok contents ∧
      (∀ token ∈ record.tokens, token.Stands contents) ∧
      replacement.tree.read record.path =
        .ok (filled found.checklist.value contents record.tokens)) ∧
    (∀ record contents, found.files[replacement.written.length]? = some record →
      tree.read record.path = .ok contents →
      replacement.tree.read record.path = .ok contents ∧
      (replacement.failure = some (.changed record.path) ↔
        ∃ token ∈ record.tokens, ¬token.Stands contents)) ∧
    ∀ record ∈ found.files, ∀ token ∈ record.tokens, ∀ contents,
      token ∈ tokens contents ↔ token.Stands contents ∧
        (∀ byte, contents[token.span.stop]? = some byte → byte ∉ partClass) ∧
        ∀ other ∈ tokens contents,
          ¬(other.span.start < token.span.start ∧ token.span.start < other.span.stop) := by
  intro replacement
  have pass := replace_pass scanned set tree
  obtain ⟨writes, stopped⟩ := pass.of_apart apart
  refine ⟨writes, fun record contents behind reads => ?_, fun record member token inRecord _ => ?_⟩
  · obtain ⟨kept, cause, fails, stops⟩ := stopped record behind
    refine ⟨kept.trans reads, ?_⟩
    rw [fails]
    cases stops with
    | unreadable failed => cases reads.symm.trans failed
    | @changed held token readsHeld member gone =>
      obtain rfl := Except.ok.inj (reads.symm.trans readsHeld)
      exact iff_of_true rfl ⟨token, member, gone⟩
    | @unwritable held readsHeld stand locked =>
      obtain rfl := Except.ok.inj (reads.symm.trans readsHeld)
      refine iff_of_false (by simp) ?_
      rintro ⟨token, member, gone⟩
      exact gone (stand token member)
  · obtain ⟨old, same⟩ := Scan.exists_tokens_eq scanned record member
    exact mem_tokens_iff_of_mem (same ▸ inRecord)

/-- A file edited outside of its placeholder is written, one edited in front of it is reported. -/
theorem replace_checks_tokens_moved :
    let treeOf (first second : Bytes) : FileTree :=
      ⟨[⟨.directory [([0x61], 1), ([0x62], 2)], 0o755⟩, ⟨.file first, 0o644⟩,
        ⟨.file second, 0o644⟩], [0]⟩
    let token := marker ++ [0x41]
    let tree := treeOf (token ++ [0x3B]) (0x3B :: token)
    ∃ found, scan (treeOf token token) (.ofFunction fun _ => some "x")
        ([[0x61], [0x62]].map FileRecord.ofPath) = .ok found ∧
      found.checklist.missing = [] ∧ Apart tree found.files ∧
      (replace tree found).written = [⟨[0x61], [⟨⟨0, 12⟩, "A"⟩]⟩] ∧
      (replace tree found).tree.read [0x61] = .ok [0x78, 0x3B] ∧
      (replace tree found).failure = some (.changed [0x62]) ∧
      (replace tree found).tree.read [0x62] = .ok (0x3B :: token) := by
  intro treeOf token tree
  have scanned := @Scan.scan_of_readable (treeOf token token)
    ([[0x61], [0x62]].map FileRecord.ofPath) (.ofFunction fun _ => some "x") (by decide +kernel)
  obtain ⟨-, stops, -⟩ :=
    @replace_checks_tokens _ tree _ _ _ scanned (by decide +kernel) (by decide +kernel)
  obtain ⟨kept, changed_iff⟩ := stops ⟨[0x62], [⟨⟨0, 12⟩, "A"⟩]⟩ (0x3B :: token)
    (by decide +kernel) (by decide +kernel)
  exact ⟨_, scanned, by decide +kernel, by decide +kernel, by decide +kernel, by decide +kernel,
    changed_iff.2 (by decide +kernel), kept⟩

/-- Recorded tokens can be lost although their bytes stand: in one file a longer name took the place
of the old one, in the other the token came to lie in the name of a new one. Both are written. -/
theorem replace_writes_lost_tokens :
    let treeOf (first second : Bytes) : FileTree :=
      ⟨[⟨.directory [([0x61], 1), ([0x62], 2)], 0o755⟩, ⟨.file first, 0o644⟩,
        ⟨.file second, 0o644⟩], [0]⟩
    let token := marker ++ [0x41]
    let before := treeOf token (List.replicate 11 0x20 ++ token)
    let tree := treeOf (token ++ [0x42]) (marker ++ token)
    ∃ found, scan before (.ofFunction fun name => if name = "A" then some "x" else none)
        ([[0x61], [0x62]].map FileRecord.ofPath) = .ok found ∧
      found.checklist.missing = [] ∧ Apart tree found.files ∧
      (replace tree found).written =
        [⟨[0x61], [⟨⟨0, 12⟩, "A"⟩]⟩, ⟨[0x62], [⟨⟨11, 23⟩, "A"⟩]⟩] ∧
      (replace tree found).failure = none ∧
      (tree.read [0x61] = .ok (token ++ [0x42]) ∧ ⟨⟨0, 12⟩, "A"⟩ ∉ tokens (token ++ [0x42])) ∧
      (tree.read [0x62] = .ok (marker ++ token) ∧ ⟨⟨11, 23⟩, "A"⟩ ∉ tokens (marker ++ token)) ∧
      (replace tree found).tree = treeOf [0x78, 0x42] (marker ++ [0x78]) := by
  intro treeOf token before tree
  have scanned := @Scan.scan_of_readable before
    ([[0x61], [0x62]].map FileRecord.ofPath)
    (.ofFunction fun name => if name = "A" then some "x" else none) (by decide +kernel)
  exact ⟨_, scanned, by decide +kernel, by decide +kernel, by decide +kernel, by decide +kernel,
    by decide +kernel, by decide +kernel, by decide +kernel⟩

end EnvInject

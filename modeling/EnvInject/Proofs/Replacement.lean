import EnvInject.Proofs.Placeholder.Leftmost
import EnvInject.Proofs.Scan
import EnvInject.Proofs.Selection
import EnvInject.Replacement

/-!
# What a replacement writes

`fillNodes values ids` is the change of contents that fills the files in `ids`, each with its own
tokens. If nobody else changes the tree, writing records that a scan has just made is this change
for a prefix of them: the files before the first that is not writable. The failure, if there is one,
names that file (`fillFiles_of_scanned`).

The step is `fillFile_of_untouched`: a file that was not filled before still holds what was scanned,
so its tokens stand in it and the only thing that can fail is to write it. That no file is met twice
is what `Separate` is for.

In a tree that has changed more can fail. `Stops` has the reasons, and `fillFile_step` says that a
record for which there is none is written (`Rewrites`).
-/

namespace EnvInject

/-- The change of contents that fills the files in `ids`. -/
def fillNodes (values : String → Option String) (ids : List NodeId) (id : NodeId)
    (contents : Bytes) : Bytes :=
  if id ∈ ids then filled values contents (tokens contents) else contents

namespace FileTree

/-- Whether the file that a path leads to can be written. -/
def canWrite (tree : FileTree) (path : Path) : Bool :=
  match tree.find? path with
  | .ok (_, node) => node.writable
  | .error _ => false

/-- The files that some paths lead to, in order. -/
def filesAt (tree : FileTree) (paths : List Path) : List NodeId :=
  paths.filterMap tree.regularFile?

end FileTree

/-- A record that a scan made: the file can be read and holds the tokens of the record. -/
structure Scanned (tree : FileTree) (record : FileRecord) : Prop where
  canRead : tree.canRead record.path = true
  tokens_eq : record.tokens = tree.tokensAt record.path

variable {values : String → Option String} {tree : FileTree}

theorem FileTree.canWrite_of_file {path : Path} {id : NodeId} {contents : Bytes}
    {mode : Permissions} (found : tree.find? path = .ok (id, ⟨.file contents, mode⟩)) :
    tree.canWrite path = Node.writable ⟨.file contents, mode⟩ := by
  rw [canWrite, found]

theorem fillNodes_of_not_mem {ids : List NodeId} {id : NodeId} (fresh : id ∉ ids) :
    fillNodes values ids id = fun contents => contents := by
  funext contents
  rw [fillNodes, if_neg fresh]

theorem fillNodes_of_mem {ids : List NodeId} {id : NodeId} (member : id ∈ ids) (contents : Bytes) :
    fillNodes values ids id contents = filled values contents (tokens contents) := by
  rw [fillNodes, if_pos member]

theorem fillNodes_concat_of_ne {ids : List NodeId} {id other : NodeId} (differs : other ≠ id) :
    fillNodes values (ids ++ [id]) other = fillNodes values ids other := by
  funext contents
  simp [fillNodes, differs]

theorem FileTree.mapContents_fillNodes_nil (values : String → Option String) (tree : FileTree) :
    tree.mapContents (fillNodes values []) = tree :=
  tree.mapContents_of_kept fun _ _ => by rw [fillNodes_of_not_mem List.not_mem_nil]

/-! ## One file -/

/-- If the tokens of a record stand in its file, only writing the file can fail. -/
theorem fillFile_of_stand {record : FileRecord} {contents text : Bytes}
    (reads : tree.read record.path = .ok contents)
    (stand : record.tokens.all (Token.standsIn contents) = true)
    (isFilled : fill values contents record.tokens = some text) :
    fillFile values tree record =
      match tree.overwrite record.path text with
      | .error cause => .error (.io record.path cause)
      | .ok written => .ok ⟨written, contents, text⟩ := by
  rw [fillFile, reads]
  dsimp only
  rw [stand, isFilled]
  rfl

/-- A file that was not filled before can be filled, unless it cannot be written. -/
theorem fillFile_of_untouched (values : String → Option String) {record : FileRecord}
    {done : List NodeId} {id : NodeId} (scanned : Scanned tree record)
    (regular : tree.regularFile? record.path = some id) (fresh : id ∉ done) :
    ∃ before after, fillFile values (tree.mapContents (fillNodes values done)) record =
      if tree.canWrite record.path then
        .ok ⟨tree.mapContents (fillNodes values (done ++ [id])), before, after⟩
      else .error (.io record.path .denied) := by
  obtain ⟨contents, read⟩ := FileTree.read_of_canRead scanned.canRead
  obtain ⟨file, mode, found, -⟩ := FileTree.find?_of_read read
  obtain rfl : id = file :=
    Option.some.inj (regular.symm.trans (FileTree.regularFile?_of_find? found))
  have tokens_eq : record.tokens = tokens contents :=
    scanned.tokens_eq.trans (FileTree.tokensAt_of_read read)
  have stand : record.tokens.all (Token.standsIn contents) = true := by
    rw [tokens_eq]
    exact tokens_standIn contents
  have isFilled : fill values contents record.tokens =
      some (filled values contents (tokens contents)) := by
    rw [tokens_eq]
    exact fill_tokens values contents
  have reads : (tree.mapContents (fillNodes values done)).read record.path = .ok contents := by
    rw [FileTree.read_mapContents regular, read, fillNodes_of_not_mem fresh]
    rfl
  have writes : (tree.mapContents (fillNodes values done)).overwrite record.path
        (filled values contents (tokens contents)) =
      if tree.canWrite record.path then .ok (tree.mapContents (fillNodes values (done ++ [id])))
      else .error .denied := by
    have step := FileTree.overwrite_mapContents found (fillNodes values done)
      (fillNodes values (done ++ [id])) fun other differs => fillNodes_concat_of_ne differs
    rw [fillNodes_of_mem (by simp), ← FileTree.canWrite_of_file found] at step
    exact step
  refine ⟨contents, filled values contents (tokens contents), ?_⟩
  rw [fillFile_of_stand reads stand isFilled, writes]
  cases tree.canWrite record.path with
  | true => rfl
  | false => rfl

/-! ## One file in any tree -/

/-- Why a record is not written, in the tree as it is when the record is reached. -/
inductive Stops (tree : FileTree) (record : FileRecord) : Failure → Prop
  | unreadable {cause : FileError} (fails : tree.read record.path = .error cause) :
    Stops tree record (.io record.path cause)
  | changed {contents : Bytes} {token : Token} (reads : tree.read record.path = .ok contents)
    (member : token ∈ record.tokens) (gone : ¬token.Stands contents) :
    Stops tree record (.changed record.path)
  | unwritable {contents : Bytes} (reads : tree.read record.path = .ok contents)
    (stand : ∀ token ∈ record.tokens, token.Stands contents)
    (locked : tree.canWrite record.path = false) :
    Stops tree record (.io record.path .denied)

/-- A record that is written: its tokens stand in what its file holds now, and the values take their
place in that. Every other file stays. -/
structure Rewrites (values : String → Option String) (tree : FileTree) (record : FileRecord)
    (contents : Bytes) (next : FileTree) : Prop where
  reads : tree.read record.path = .ok contents
  stand : ∀ token ∈ record.tokens, token.Stands contents
  canWrite : tree.canWrite record.path = true
  next_eq : next = tree.withContents record.path (filled values contents record.tokens)

/-- A record whose tokens are in order either stops the work or is written. Tokens that stand in the
contents end within them, so there is always something to write. -/
theorem fillFile_step (values : String → Option String) (tree : FileTree) {record : FileRecord}
    {bound : Nat} (ordered : InOrder bound 0 record.tokens) :
    (∃ failure, fillFile values tree record = .error failure ∧ Stops tree record failure) ∨
      ∃ file, fillFile values tree record = .ok file ∧
        Rewrites values tree record file.before file.tree := by
  cases reads : tree.read record.path with
  | error cause =>
    refine .inl ⟨_, ?_, .unreadable reads⟩
    rw [fillFile, reads]
  | ok contents =>
    cases present : record.tokens.all (Token.standsIn contents) with
    | false =>
      obtain ⟨token, member, gone⟩ := List.all_eq_false.1 present
      rw [Token.standsIn_iff] at gone
      refine .inl ⟨_, ?_, .changed reads member gone⟩
      rw [fillFile, reads]
      dsimp only
      rw [present]
      rfl
    | true =>
      have stand : ∀ token ∈ record.tokens, token.Stands contents := fun token member =>
        Token.standsIn_iff.1 (List.all_eq_true.1 present token member)
      have here : InOrder contents.length 0 record.tokens :=
        ordered.within (Nat.zero_le _) fun token member => (stand token member).stop_le
      obtain ⟨id, mode, found, -⟩ := FileTree.find?_of_read reads
      rw [fillFile_of_stand reads present (fill_eq_filled here), FileTree.overwrite_of_file found,
        ← FileTree.canWrite_of_file found]
      cases canWrite : tree.canWrite record.path with
      | false => exact .inl ⟨_, rfl, .unwritable reads stand canWrite⟩
      | true => exact .inr ⟨_, rfl, reads, stand, canWrite, rfl⟩

/-! ## All files -/

/-- The records before the first whose file cannot be written. -/
def writablePart (tree : FileTree) (records : List FileRecord) : List FileRecord :=
  records.takeWhile fun record => tree.canWrite record.path

theorem writablePart_cons_of_true {record : FileRecord}
    (isWritable : tree.canWrite record.path = true) (rest : List FileRecord) :
    writablePart tree (record :: rest) = record :: writablePart tree rest := by
  simp [writablePart, isWritable]

theorem writablePart_cons_of_false {record : FileRecord}
    (notWritable : tree.canWrite record.path = false) (rest : List FileRecord) :
    writablePart tree (record :: rest) = [] := by
  simp [writablePart, notWritable]

theorem writablePart_length_le (tree : FileTree) (records : List FileRecord) :
    (writablePart tree records).length ≤ records.length :=
  (List.takeWhile_prefix _).length_le

theorem length_writablePart (tree : FileTree) (records : List FileRecord) :
    (writablePart tree records).length =
      ((records.map (·.path)).takeWhile tree.canWrite).length := by
  rw [List.takeWhile_map, List.length_map]
  rfl

theorem take_map_writablePart (tree : FileTree) (records : List FileRecord) :
    (records.map (·.path)).take (writablePart tree records).length =
      (writablePart tree records).map (·.path) := by
  rw [← List.map_take, writablePart, ← List.prefix_iff_eq_take.1 (List.takeWhile_prefix _)]

/-- Behind the writable part is the first record whose file cannot be written. -/
theorem getElem?_writablePart (tree : FileTree) (records : List FileRecord) :
    records[(writablePart tree records).length]? =
      records.find? fun record => !tree.canWrite record.path := by
  induction records with
  | nil => rfl
  | cons first rest ih =>
    cases isWritable : tree.canWrite first.path with
    | true =>
      rw [writablePart_cons_of_true isWritable, List.length_cons, List.getElem?_cons_succ, ih,
        List.find?_cons_of_neg (by simp [isWritable])]
    | false =>
      rw [writablePart_cons_of_false isWritable, List.find?_cons_of_pos (by simp [isWritable])]
      rfl

theorem canWrite_of_getElem?_writablePart {records : List FileRecord} {record : FileRecord}
    (behind : records[(writablePart tree records).length]? = some record) :
    tree.canWrite record.path = false := by
  rw [getElem?_writablePart] at behind
  simpa using List.find?_some behind

theorem writablePart_of_getElem?_eq_none {records : List FileRecord}
    (noneBehind : records[(writablePart tree records).length]? = none) :
    writablePart tree records = records :=
  (List.takeWhile_prefix _).eq_of_length_le (List.getElem?_eq_none_iff.1 noneBehind)

/-- Writing records that were scanned fills the files of the writable part, and fails at the record
behind it. -/
theorem fillFiles_of_scanned (values : String → Option String) {records : List FileRecord}
    (done : List NodeId) (scanned : ∀ record ∈ records, Scanned tree record)
    (separate : Separate tree records)
    (fresh : ∀ record ∈ records, ∀ id, tree.regularFile? record.path = some id → id ∉ done) :
    let replacement := fillFiles values (tree.mapContents (fillNodes values done)) records
    replacement.tree = tree.mapContents (fillNodes values
        (done ++ tree.filesAt ((writablePart tree records).map (·.path)))) ∧
      replacement.written = writablePart tree records ∧
      replacement.failure = (records[(writablePart tree records).length]?).map
        fun record => .io record.path .denied := by
  induction records generalizing done with
  | nil => exact ⟨by simp [writablePart, FileTree.filesAt, fillFiles], rfl, rfl⟩
  | cons record rest ih =>
    obtain ⟨id, regular⟩ := separate.regular record List.mem_cons_self
    have unfilled : id ∉ done := fresh record List.mem_cons_self id regular
    obtain ⟨before, after, step⟩ :=
      fillFile_of_untouched values (scanned record List.mem_cons_self) regular unfilled
    cases isWritable : tree.canWrite record.path with
    | false =>
      rw [isWritable] at step
      simp [fillFiles, step, writablePart_cons_of_false isWritable, FileTree.filesAt]
    | true =>
      rw [isWritable] at step
      -- Later records lead to other files, so they are still untouched when this one is filled.
      have later : ∀ next ∈ rest, ∀ other, tree.regularFile? next.path = some other →
          other ∉ done ++ [id] := by
        intro next member other found
        have differs := (List.pairwise_cons.1 separate.distinct).1 next member
        have apart : other ≠ id := fun same => differs (by rw [regular, found, same])
        have notDone := fresh next (List.mem_cons_of_mem _ member) other found
        simp [notDone, apart]
      obtain ⟨sameTree, sameWritten, sameFailure⟩ :=
        ih (done ++ [id]) (fun next member => scanned next (List.mem_cons_of_mem _ member))
          separate.tail later
      have first : tree.filesAt ((record :: writablePart tree rest).map (·.path)) =
          id :: tree.filesAt ((writablePart tree rest).map (·.path)) := by
        rw [List.map_cons, FileTree.filesAt, List.filterMap_cons_some regular]
        rfl
      simp only [fillFiles, step, if_true, writablePart_cons_of_true isWritable, first]
      refine ⟨?_, ?_, ?_⟩
      · rw [sameTree, List.append_assoc]
        rfl
      · rw [sameWritten]
      · rw [sameFailure, List.length_cons, List.getElem?_cons_succ]

/-! ## A scan -/

theorem fillFiles_congr {first second : String → Option String} {records : List FileRecord}
    (agree : ∀ record ∈ records, ∀ token ∈ record.tokens, first token.name = second token.name)
    (tree : FileTree) : fillFiles first tree records = fillFiles second tree records := by
  induction records generalizing tree with
  | nil => rfl
  | cons record rest ih =>
    have here (contents : Bytes) : fill first contents record.tokens =
        fill second contents record.tokens :=
      fillFrom_congr (agree record List.mem_cons_self) contents 0
    have later := ih fun next member => agree next (List.mem_cons_of_mem _ member)
    simp only [fillFiles, fillFile, here, later]

theorem Separate.holders {selected : List FileRecord} (separate : Separate tree selected) :
    Separate tree (Scan.holders tree selected) := by
  constructor
  · intro record member
    obtain ⟨-, unscanned, given, rfl⟩ := Scan.mem_holders.1 member
    exact separate.regular unscanned given
  · exact List.Pairwise.filter _ (List.pairwise_map.2 separate.distinct)

/-- What a scan whose variables are all set replaces if its files are different ones, with values
that its checklist has for the names in them. -/
theorem replace_of_separate {env : Environment} {selected : List FileRecord} {found : Scan}
    (separate : Separate tree (Scan.holders tree selected))
    (scanned : scan tree env selected = .ok found) (valid : found.validate = .ok ())
    (agree : ∀ record ∈ found.files, ∀ token ∈ record.tokens,
      found.checklist.value token.name = values token.name) :
    let records := Scan.holders tree selected
    (replace tree found).tree = tree.mapContents (fillNodes values
        (tree.filesAt ((writablePart tree records).map (·.path)))) ∧
      (replace tree found).written = writablePart tree records ∧
      (replace tree found).failure = (records[(writablePart tree records).length]?).map
        fun record => .io record.path .denied := by
  intro records
  have readable := Scan.canRead_of_scan scanned
  have scannedAll : ∀ record ∈ records, Scanned tree record := by
    intro record member
    obtain ⟨-, unscanned, given, rfl⟩ := Scan.mem_holders.1 member
    exact ⟨readable unscanned given, rfl⟩
  have files : found.files = records := Scan.files_eq_of_scan scanned
  have isFilling : replace tree found = fillFiles values tree records := by
    rw [replace, valid]
    dsimp only
    rw [← files]
    exact fillFiles_congr agree tree
  have filled := fillFiles_of_scanned values [] scannedAll separate
    (fun _ _ _ _ => List.not_mem_nil)
  rw [FileTree.mapContents_fillNodes_nil, List.nil_append] at filled
  rw [isFilling]
  exact filled

theorem replace_of_agreeing {env : Environment} {selected : List FileRecord} {found : Scan}
    (separate : Separate tree selected) (scanned : scan tree env selected = .ok found)
    (valid : found.validate = .ok ())
    (agree : ∀ record ∈ found.files, ∀ token ∈ record.tokens,
      found.checklist.value token.name = values token.name) :
    let records := Scan.holders tree selected
    (replace tree found).tree = tree.mapContents (fillNodes values
        (tree.filesAt ((writablePart tree records).map (·.path)))) ∧
      (replace tree found).written = writablePart tree records ∧
      (replace tree found).failure = (records[(writablePart tree records).length]?).map
        fun record => .io record.path .denied :=
  replace_of_separate separate.holders scanned valid agree

/-- What is replaced under an environment that gives each name one answer. -/
theorem replace_of_scan {selected : List FileRecord} {found : Scan}
    (separate : Separate tree selected)
    (scanned : scan tree (.ofFunction values) selected = .ok found)
    (valid : found.validate = .ok ()) :
    let records := Scan.holders tree selected
    (replace tree found).tree = tree.mapContents (fillNodes values
        (tree.filesAt ((writablePart tree records).map (·.path)))) ∧
      (replace tree found).written = writablePart tree records ∧
      (replace tree found).failure = (records[(writablePart tree records).length]?).map
        fun record => .io record.path .denied :=
  replace_of_agreeing separate scanned valid fun record member token inRecord =>
    (Scan.value_of_scan scanned record member token inRecord).1

end EnvInject

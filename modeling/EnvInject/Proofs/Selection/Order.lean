import EnvInject.Proofs.FileTree.Relisted
import EnvInject.Proofs.Selection

/-!
# How far a selection depends on the order of the directory

Candidates are ordered by the text of their names, and two names that are not UTF-8 may read the
same. Such candidates stay in the order in which the directory lists them. So the order of the
directory never changes which files are selected or what they are called in reports, and it changes
the paths exactly if two leading candidates read the same (`select_relisted`).
-/

namespace EnvInject

theorem eq_of_map_eq {α β : Type} {f : α → β} {first second : List α}
    (same : first.map f = second.map f)
    (injective : ∀ a ∈ first, ∀ b ∈ second, f a = f b → a = b) : first = second := by
  induction first generalizing second with
  | nil => exact (List.map_eq_nil_iff.1 same.symm).symm
  | cons a rest ih =>
    obtain ⟨b, others, rfl, head, tail⟩ := List.map_eq_cons_iff.1 same.symm
    rw [injective a List.mem_cons_self b List.mem_cons_self head.symm,
      ih tail.symm fun a inRest b inOthers =>
        injective a (List.mem_cons_of_mem _ inRest) b (List.mem_cons_of_mem _ inOthers)]

namespace Selection

variable {tree other : FileTree} {directory : Path} {isWanted : String → Bool}
  {entries : List (Bytes × NodeId)} {found others : List Candidate} {candidate : Candidate}

/-- The candidates under the first name of their file. A file has several if they read the same. -/
def leading (found : List Candidate) : List Candidate :=
  found.filter fun candidate => found.all fun other =>
    other.file != candidate.file || decide (Utf8.encode candidate.name ≤ Utf8.encode other.name)

theorem mem_leading_iff :
    candidate ∈ leading found ↔ candidate ∈ found ∧ ∀ other ∈ found,
      other.file = candidate.file → Utf8.encode candidate.name ≤ Utf8.encode other.name := by
  simp only [leading, List.mem_filter, List.all_eq_true, Bool.or_eq_true, bne_iff_ne,
    decide_eq_true_eq, ne_eq, ← imp_iff_not_or]

/-! ## The order of the candidates -/

theorem nameOrder_trans (a b c : Candidate)
    (ab : decide (Utf8.encode a.name ≤ Utf8.encode b.name) = true)
    (bc : decide (Utf8.encode b.name ≤ Utf8.encode c.name) = true) :
    decide (Utf8.encode a.name ≤ Utf8.encode c.name) = true :=
  decide_eq_true (List.le_trans (of_decide_eq_true ab) (of_decide_eq_true bc))

theorem nameOrder_total (a b : Candidate) :
    (decide (Utf8.encode a.name ≤ Utf8.encode b.name) ||
      decide (Utf8.encode b.name ≤ Utf8.encode a.name)) = true := by
  simpa using List.le_total (Utf8.encode a.name) (Utf8.encode b.name)

theorem inNameOrder_sorted (found : List Candidate) :
    (inNameOrder found).Pairwise fun a b => Utf8.encode a.name ≤ Utf8.encode b.name :=
  (List.pairwise_mergeSort nameOrder_trans nameOrder_total found).imp of_decide_eq_true

/-- What is kept of sorted candidates has the least name of its file. The induction is on the
candidates, with the files that were seen before them. -/
theorem firstNames_le {seen : List NodeId}
    (sorted : found.Pairwise fun a b => Utf8.encode a.name ≤ Utf8.encode b.name)
    (kept : candidate ∈ firstNames seen found) :
    ∀ other ∈ found, other.file = candidate.file →
      Utf8.encode candidate.name ≤ Utf8.encode other.name := by
  induction found generalizing seen with
  | nil => cases kept
  | cons head rest ih =>
    obtain ⟨least, restSorted⟩ := List.pairwise_cons.1 sorted
    intro other member same
    unfold firstNames at kept
    split at kept
    -- The head is dropped, so its file was seen before and `candidate` is another one.
    · rename_i known
      rcases List.mem_cons.1 member with rfl | later
      · rw [same] at known
        exact absurd (List.contains_iff_mem.1 known) (firstNames_fresh candidate kept)
      · exact ih restSorted kept other later same
    · rcases List.mem_cons.1 kept with rfl | keptLater
      · rcases List.mem_cons.1 member with rfl | later
        · exact List.le_refl _
        · exact least other later
      · rcases List.mem_cons.1 member with rfl | later
        · have fresh := firstNames_fresh candidate keptLater
          rw [← same] at fresh
          exact absurd List.mem_cons_self fresh
        · exact ih restSorted keptLater other later same

theorem mem_leading_of_mem_firstNames (kept : candidate ∈ firstNames [] (inNameOrder found)) :
    candidate ∈ leading found := by
  have least := firstNames_le (inNameOrder_sorted found) kept
  refine mem_leading_iff.2 ⟨mem_inNameOrder.1 ((firstNames_sublist _ _).subset kept), ?_⟩
  exact fun other member => least other (mem_inNameOrder.2 member)

/-- Leading candidates of one file read the same. -/
theorem name_eq_of_leading {first second : Candidate} (leads : first ∈ leading found)
    (leads' : second ∈ leading found) (same : first.file = second.file) :
    first.name = second.name := by
  obtain ⟨member, least⟩ := mem_leading_iff.1 leads
  obtain ⟨member', least'⟩ := mem_leading_iff.1 leads'
  exact Utf8.encode_injective
    (List.le_antisymm (least second member' same.symm) (least' first member same))

theorem leading_perm (perm : found.Perm others) :
    candidate ∈ leading found ↔ candidate ∈ leading others := by
  simp only [mem_leading_iff, perm.mem_iff]

/-! ## Candidates in another order -/

theorem exists_mem_firstNames (perm : found.Perm others)
    (kept : candidate ∈ firstNames [] (inNameOrder found)) :
    ∃ instead ∈ firstNames [] (inNameOrder others),
      instead.name = candidate.name ∧ instead.file = candidate.file := by
  have leads := mem_leading_of_mem_firstNames kept
  have member : candidate ∈ inNameOrder others :=
    mem_inNameOrder.2 (perm.mem_iff.1 (mem_leading_iff.1 leads).1)
  rcases @firstNames_covers [] _ _ member with seen | ⟨instead, first, same⟩
  · cases seen
  · have leads' := (leading_perm perm).2 (mem_leading_of_mem_firstNames first)
    exact ⟨instead, first, name_eq_of_leading leads' leads same, same⟩

/-- The order changes neither which files are kept nor the names that they are kept under. -/
theorem firstNames_perm (perm : found.Perm others) :
    ((firstNames [] (inNameOrder others)).map fun kept => (kept.name, kept.file)).Perm
      ((firstNames [] (inNameOrder found)).map fun kept => (kept.name, kept.file)) := by
  have nodup (found : List Candidate) :
      ((firstNames [] found).map fun kept => (kept.name, kept.file)).Nodup :=
    List.pairwise_map.2 ((firstNames_distinct [] found).imp fun differ same =>
      differ (congrArg Prod.snd same))
  have subset {found others : List Candidate} (perm : found.Perm others) {pair : String × NodeId}
      (member : pair ∈ (firstNames [] (inNameOrder found)).map fun kept => (kept.name, kept.file)) :
      pair ∈ (firstNames [] (inNameOrder others)).map fun kept => (kept.name, kept.file) := by
    obtain ⟨candidate, kept, rfl⟩ := List.mem_map.1 member
    obtain ⟨instead, first, name, file⟩ := exists_mem_firstNames perm kept
    exact List.mem_map.2 ⟨instead, first, by rw [name, file]⟩
  exact (List.perm_ext_iff_of_nodup (nodup _) (nodup _)).2 fun pair =>
    ⟨subset perm.symm, subset perm⟩

/-- Which names are kept, and in which order, does not depend on the order of the candidates. The
files behind names that read the same may. -/
theorem firstNames_names (perm : found.Perm others) :
    (firstNames [] (inNameOrder others)).map (·.name) =
      (firstNames [] (inNameOrder found)).map (·.name) := by
  have sorted (found : List Candidate) :
      ((firstNames [] (inNameOrder found)).map (·.name)).Pairwise
        fun a b => Utf8.encode a ≤ Utf8.encode b :=
    List.pairwise_map.2 ((inNameOrder_sorted found).sublist (firstNames_sublist _ _))
  refine List.Perm.eq_of_pairwise ?_ (sorted others) (sorted found) ?_
  · intro a b _ _ ab ba
    exact Utf8.encode_injective (List.le_antisymm ab ba)
  · have pairs := (firstNames_perm perm).map Prod.fst
    rw [List.map_map, List.map_map] at pairs
    exact pairs

/-- Where leading candidates do not read the same, the order changes nothing. -/
theorem firstNames_eq (perm : found.Perm others)
    (apart : ∀ first ∈ leading found, ∀ second ∈ leading found,
      first.name = second.name → first = second) :
    firstNames [] (inNameOrder others) = firstNames [] (inNameOrder found) :=
  eq_of_map_eq (firstNames_names perm) fun first kept second kept' =>
    apart first ((leading_perm perm).2 (mem_leading_of_mem_firstNames kept)) second
      (mem_leading_of_mem_firstNames kept')

/-! ## A candidate that is listed first -/

/-- A candidate of a file that none before it has is kept at its place. -/
theorem firstNames_append_cons {before : List Candidate} {seen : List NodeId}
    (fresh : candidate.file ∉ seen) (apart : ∀ earlier ∈ before, earlier.file ≠ candidate.file)
    (rest : List Candidate) :
    ∃ known, firstNames seen (before ++ candidate :: rest) =
      firstNames seen before ++ candidate :: firstNames known rest := by
  induction before generalizing seen with
  | nil =>
    refine ⟨candidate.file :: seen, ?_⟩
    rw [List.nil_append, firstNames]
    exact if_neg fun known => fresh (List.contains_iff_mem.1 known)
  | cons head behind ih =>
    have later := fun earlier member => apart earlier (List.mem_cons_of_mem head member)
    rw [List.cons_append, firstNames, firstNames]
    split
    · exact ih fresh later
    · have stillFresh : candidate.file ∉ head.file :: seen :=
        List.not_mem_cons_of_ne_of_not_mem (apart head List.mem_cons_self).symm fresh
      obtain ⟨known, same⟩ := ih stillFresh later
      exact ⟨known, by rw [same, List.cons_append]⟩

/-- A leading candidate that is listed first is kept, before all others that read the same. -/
theorem find?_firstNames_of_leading {rest : List Candidate}
    (leads : candidate ∈ leading (candidate :: rest)) :
    (firstNames [] (inNameOrder (candidate :: rest))).find? (·.name = candidate.name) =
      some candidate := by
  obtain ⟨-, least⟩ := mem_leading_iff.1 leads
  obtain ⟨before, behind, sorted, restSorted, smaller⟩ :=
    List.mergeSort_cons nameOrder_trans nameOrder_total candidate rest
  have earlier {other : Candidate} (member : other ∈ before) :
      ¬Utf8.encode candidate.name ≤ Utf8.encode other.name := by
    simpa using smaller other member
  have inRest {other : Candidate} (member : other ∈ before) : other ∈ candidate :: rest := by
    refine List.mem_cons_of_mem _ (mem_inNameOrder.1 ?_)
    rw [inNameOrder, restSorted]
    exact List.mem_append_left _ member
  have fresh : candidate.file ∉ ([] : List NodeId) := List.not_mem_nil
  obtain ⟨known, kept⟩ := firstNames_append_cons fresh
    (fun other member same => earlier member (least other (inRest member) same)) behind
  have none : (firstNames [] before).find? (·.name = candidate.name) = none := by
    refine List.find?_eq_none.2 fun other member same => ?_
    have isEarlier := earlier ((firstNames_sublist _ _).subset member)
    rw [of_decide_eq_true same] at isEarlier
    exact isEarlier (List.le_refl _)
  rw [inNameOrder, sorted, kept, List.find?_append, none, Option.none_or]
  exact List.find?_cons_of_pos (by simp)

/-! ## Candidates of a directory -/

/-- Candidates of one directory have different paths, so two with the same path are one. -/
theorem eq_of_path_eq {first second : Candidate}
    (member : first ∈ candidates tree (wantedEntries isWanted directory entries))
    (member' : second ∈ candidates tree (wantedEntries isWanted directory entries))
    (same : first.path = second.path) : first = second := by
  obtain ⟨entry, -, -, regular, name, path⟩ := mem_candidates_iff.1 member
  obtain ⟨entry', -, -, regular', name', path'⟩ := mem_candidates_iff.1 member'
  rw [path, path'] at same
  have sameEntry := Path.entry_injective directory same
  rw [← sameEntry] at regular' name' path'
  rcases first with ⟨_, _, _⟩
  rcases second with ⟨_, _, _⟩
  cases Option.some.inj (regular.symm.trans regular')
  cases name.trans name'.symm
  cases path.trans path'.symm
  rfl

theorem candidates_perm (tree : FileTree) (isWanted : String → Bool) (directory : Path)
    {entries listed : List (Bytes × NodeId)} (perm : entries.Perm listed) :
    (candidates tree (wantedEntries isWanted directory entries)).Perm
      (candidates tree (wantedEntries isWanted directory listed)) :=
  ((perm.map _).filter _).filterMap _

theorem candidates_cons {entry : Bytes × NodeId} (wanted : isWanted (Utf8.lossy entry.1) = true)
    (regular : tree.regularFile? (directory.entry entry.1) = some candidate.file)
    (name : candidate.name = Utf8.lossy entry.1) (path : candidate.path = directory.entry entry.1)
    (rest : List (Bytes × NodeId)) :
    candidates tree (wantedEntries isWanted directory (entry :: rest)) =
      candidate :: candidates tree (wantedEntries isWanted directory rest) := by
  have keeps : (isWanted (Utf8.lossy entry.1, directory.entry entry.1).1) = true := wanted
  have made : (tree.regularFile? (directory.entry entry.1)).map
      (Candidate.mk (Utf8.lossy entry.1) (directory.entry entry.1)) = some candidate := by
    rw [regular, Option.map_some, ← name, ← path]
  rw [wantedEntries, List.map_cons, List.filter_cons, if_pos keeps, candidates]
  exact List.filterMap_cons_some made

theorem candidates_relisted (relisted : tree.Relisted other) (proper : tree.Proper)
    (wanted : List (String × Path)) : candidates other wanted = candidates tree wanted := by
  simp only [candidates, relisted.regularFile?_eq proper]

/-- The candidates of the directory in the other tree are the same ones in another order. -/
theorem entriesOf_cases (relisted : tree.Relisted other) (proper : tree.Proper)
    (directory : Path) :
    (∃ failure, entriesOf tree directory = .error failure ∧
        entriesOf other directory = .error failure) ∨
      ∃ entries listed, entriesOf tree directory = .ok entries ∧
        entriesOf other directory = .ok listed ∧ entries.Perm listed := by
  rw [entriesOf_eq, entriesOf_eq]
  rcases relisted.find?_cases proper directory with
    ⟨cause, found, found'⟩ | ⟨holder, node, node', found, found', related⟩
  · rw [found, found']
    exact .inl ⟨_, rfl, rfl⟩
  · rw [found, found']
    rcases node with ⟨kind, mode⟩
    cases kind with
    | file _ | link _ | special =>
      cases related
      exact .inl ⟨_, rfl, rfl⟩
    | directory entries =>
      obtain ⟨listed, perm, rfl⟩ := related.directory
      have sameMode : Node.readable ⟨.directory listed, mode⟩ =
        Node.readable ⟨.directory entries, mode⟩ := rfl
      dsimp only
      rw [sameMode]
      cases Node.readable ⟨.directory entries, mode⟩ with
      | false => exact .inl ⟨_, rfl, rfl⟩
      | true => exact .inr ⟨entries, listed, rfl, rfl, perm⟩

end Selection

open Selection

variable {tree other : FileTree} {directory : Path} {isWanted : String → Bool}
  {entries listed : List (Bytes × NodeId)}

/-- Candidates that ascend already are not sorted again. -/
theorem select_of_ascending (isListed : entriesOf tree directory = .ok entries)
    (ascending : (candidates tree (wantedEntries isWanted directory entries)).Pairwise
      fun a b => decide (Utf8.encode a.name ≤ Utf8.encode b.name) = true) :
    select tree directory isWanted = .ok ((firstNames [] (candidates tree
      (wantedEntries isWanted directory entries))).map (FileRecord.ofPath ·.path)) := by
  rw [select_of_entriesOf isListed, inNameOrder, List.mergeSort_of_pairwise ascending]

theorem displayName_of_mem (proper : tree.Proper)
    (isListed : entriesOf tree directory = .ok entries) {candidate : Candidate}
    (member : candidate ∈ candidates tree (wantedEntries isWanted directory entries)) :
    Path.displayName candidate.path = candidate.name := by
  obtain ⟨holder, mode, found, -⟩ := entriesOf_eq_ok isListed
  obtain ⟨entry, inEntries, -, -, name, path⟩ := mem_candidates_iff.1 member
  have isName := (proper.names (FileTree.node?_of_find? found)).2 entry.1
    (List.mem_map_of_mem inEntries)
  rw [name, path, Path.displayName_entry isName]

/-- What reports call the selected files, and the files behind the paths. -/
theorem map_report_firstNames (isWanted : String → Bool) (proper : tree.Proper)
    (isListed : entriesOf tree directory = .ok entries) (perm : entries.Perm listed) :
    ((firstNames [] (inNameOrder (candidates tree
        (wantedEntries isWanted directory listed)))).map (FileRecord.ofPath ·.path)).map
          (fun record => (record.displayName, tree.regularFile? record.path)) =
      (firstNames [] (inNameOrder (candidates tree
        (wantedEntries isWanted directory listed)))).map
          fun kept => (kept.name, some kept.file) := by
  rw [List.map_map]
  refine List.map_congr_left fun kept member => ?_
  have found := mem_inNameOrder.1 ((firstNames_sublist _ _).subset member)
  have inTree := (candidates_perm tree isWanted directory perm).mem_iff.2 found
  exact Prod.ext (displayName_of_mem proper isListed inTree) (mem_firstNames member)

/-- In whatever order the entries are listed, a selection fails in the same way, or it gives records
with the same names in the same order, and the same files under these names. -/
theorem select_relisted_cases (proper : tree.Proper) (relisted : tree.Relisted other)
    (directory : Path) (isWanted : String → Bool) :
    (∃ failure, select tree directory isWanted = .error failure ∧
        select other directory isWanted = .error failure) ∨
      ∃ records others, select tree directory isWanted = .ok records ∧
        select other directory isWanted = .ok others ∧
        others.map FileRecord.displayName = records.map FileRecord.displayName ∧
        (others.map fun record => (record.displayName, other.regularFile? record.path)).Perm
          (records.map fun record => (record.displayName, tree.regularFile? record.path)) := by
  rcases entriesOf_cases relisted proper directory with
    ⟨failure, failed, failed'⟩ | ⟨entries, listed, isListed, isListed', perm⟩
  · exact .inl ⟨failure, select_eq_error_iff.2 failed, select_eq_error_iff.2 failed'⟩
  · have found := candidates_perm tree isWanted directory perm
    refine .inr ⟨_, _, select_of_entriesOf isListed, select_of_entriesOf isListed', ?_⟩
    simp only [candidates_relisted relisted proper, relisted.regularFile?_eq proper]
    have before := map_report_firstNames isWanted proper isListed (.refl entries)
    have after := map_report_firstNames isWanted proper isListed perm
    constructor
    · have names := congrArg (List.map Prod.fst) before
      have names' := congrArg (List.map Prod.fst) after
      simp only [List.map_map, Function.comp_def] at names names' ⊢
      rw [names, names']
      exact firstNames_names found
    · rw [before, after]
      have pairs := (firstNames_perm found).map fun pair => (pair.1, some pair.2)
      rw [List.map_map, List.map_map] at pairs
      exact pairs

/-! ## The condition is exact -/

/-- A directory that can be read may be listed in any order. -/
theorem entriesOf_setNode (proper : tree.Proper) {holder : NodeId} {mode : Permissions}
    (found : tree.find? directory = .ok (holder, ⟨.directory entries, mode⟩))
    (readable : Node.readable ⟨.directory entries, mode⟩ = true) (perm : entries.Perm listed) :
    entriesOf (tree.setNode holder ⟨.directory listed, mode⟩) directory = .ok listed := by
  have here := FileTree.node?_of_find? found
  have relisted := FileTree.relisted_setNode here perm
  rcases relisted.find?_cases proper directory with
    ⟨cause, failed, -⟩ | ⟨id, node, node', found', after, -⟩
  · rw [failed] at found
    cases found
  · obtain ⟨rfl, rfl⟩ := Prod.mk.inj (Except.ok.inj (found.symm.trans found'))
    obtain ⟨inside, -⟩ := List.getElem?_eq_some_iff.1 here
    have isSet : (tree.setNode holder ⟨.directory listed, mode⟩).node? holder =
        some ⟨.directory listed, mode⟩ :=
      List.getElem?_set_self inside
    obtain rfl := Option.some.inj (isSet.symm.trans (FileTree.node?_of_find? after))
    rw [entriesOf_eq, after]
    exact if_pos readable

/-- In some order of the directory a leading candidate comes before all that read the same. -/
theorem exists_relisted_first (proper : tree.Proper)
    (isListed : entriesOf tree directory = .ok entries) {candidate : Candidate}
    (leads : candidate ∈ leading (candidates tree (wantedEntries isWanted directory entries))) :
    ∃ (other : FileTree) (kept : List Candidate), tree.Relisted other ∧
      select other directory isWanted = .ok (kept.map (FileRecord.ofPath ·.path)) ∧
      (∀ first ∈ kept, first ∈ candidates tree (wantedEntries isWanted directory entries)) ∧
      kept.find? (·.name = candidate.name) = some candidate := by
  obtain ⟨holder, mode, found, readable⟩ := entriesOf_eq_ok isListed
  obtain ⟨entry, inEntries, wanted, regular, name, path⟩ :=
    mem_candidates_iff.1 (mem_leading_iff.1 leads).1
  have perm := List.perm_cons_erase inEntries
  have relisted := FileTree.relisted_setNode (FileTree.node?_of_find? found) perm
  have first := candidates_cons wanted regular name path (entries.erase entry)
  have foundPerm := candidates_perm tree isWanted directory perm
  have isListed' := entriesOf_setNode proper found readable perm
  refine ⟨_, _, relisted, select_of_entriesOf isListed', ?_, ?_⟩
  · intro kept member
    rw [candidates_relisted relisted proper] at member
    exact foundPerm.mem_iff.2 (mem_inNameOrder.1 ((firstNames_sublist _ _).subset member))
  · rw [leading_perm foundPerm, first] at leads
    rw [candidates_relisted relisted proper, first]
    exact find?_firstNames_of_leading leads

/-- In every order of the directories a selection fails in the same way, or it has the same files
under names that read the same. Its paths are the same in every order exactly if no two leading
candidates read the same. -/
theorem select_relisted (proper : tree.Proper) (directory : Path) (isWanted : String → Bool) :
    (∀ other, tree.Relisted other →
      (∃ failure, select tree directory isWanted = .error failure ∧
          select other directory isWanted = .error failure) ∨
        ∃ records others, select tree directory isWanted = .ok records ∧
          select other directory isWanted = .ok others ∧
          others.map FileRecord.displayName = records.map FileRecord.displayName ∧
          (others.map fun record => (record.displayName, other.regularFile? record.path)).Perm
            (records.map fun record => (record.displayName, tree.regularFile? record.path))) ∧
    ∀ entries, entriesOf tree directory = .ok entries →
      ((∀ other, tree.Relisted other →
          select other directory isWanted = select tree directory isWanted) ↔
        ∀ first ∈ leading (candidates tree (wantedEntries isWanted directory entries)),
          ∀ second ∈ leading (candidates tree (wantedEntries isWanted directory entries)),
            first.name = second.name → first = second) := by
  refine ⟨fun other relisted => select_relisted_cases proper relisted directory isWanted, ?_⟩
  intro entries isListed
  constructor
  -- Each of the two comes first in some order; if the paths are the same, so are the candidates.
  · intro same first leads second leads' name
    obtain ⟨other, kept, relisted, selects, member, head⟩ :=
      exists_relisted_first proper isListed leads
    obtain ⟨other', kept', relisted', selects', member', head'⟩ :=
      exists_relisted_first proper isListed leads'
    rw [same other relisted, ← same other' relisted', selects'] at selects
    have keptSame : kept' = kept := by
      refine eq_of_map_eq (Except.ok.inj selects) fun a inKept b inKept' path => ?_
      exact eq_of_path_eq (member' a inKept) (member b inKept') (congrArg FileRecord.path path)
    rw [keptSame, ← name, head] at head'
    exact Option.some.inj head'
  · intro apart other relisted
    rcases entriesOf_cases relisted proper directory with
      ⟨failure, failed, -⟩ | ⟨entries', listed, isListed', others, perm⟩
    · rw [isListed] at failed
      cases failed
    · obtain rfl := Except.ok.inj (isListed.symm.trans isListed')
      rw [select_of_entriesOf isListed, select_of_entriesOf others,
        candidates_relisted relisted proper,
        firstNames_eq (candidates_perm tree isWanted directory perm) apart]

/-- A file that is also called `b` and another one called `a`, in any order. -/
theorem select_relisted_further_name :
    let tree : FileTree :=
      ⟨[⟨.directory [([0x64], 1)], 0o755⟩,
        ⟨.directory [([0x61], 3), ([0x61, 0xFF], 2), ([0x62], 2)], 0o755⟩,
        ⟨.file [], 0o644⟩, ⟨.file [], 0o644⟩], [0]⟩
    tree.Proper ∧ ∀ other, tree.Relisted other → select other [0x64] (fun _ => true) =
      .ok [⟨[0x64, 0x2F, 0x61], []⟩, ⟨[0x64, 0x2F, 0x61, 0xFF], []⟩] := by
  intro tree
  have proper : tree.Proper := by decide +kernel
  have isListed : entriesOf tree [0x64] = .ok [([0x61], 3), ([0x61, 0xFF], 2), ([0x62], 2)] := by
    decide +kernel
  have unchanged := ((select_relisted proper [0x64] fun _ => true).2 _ isListed).2
    (by decide +kernel)
  refine ⟨proper, fun other relisted => (unchanged other relisted).trans ?_⟩
  exact (select_of_ascending isListed (by decide +kernel)).trans (by decide +kernel)

/-- Three names of two files that read the same: the order of the directory says which name of the
first file is selected, and which file comes first. -/
theorem select_follows_listing :
    let entries : List (Bytes × NodeId) := [([0x61, 0xFF], 2), ([0x61, 0xFE], 2), ([0x61, 0xFD], 3)]
    let tree : FileTree :=
      ⟨[⟨.directory [([0x64], 1)], 0o755⟩, ⟨.directory entries, 0o755⟩, ⟨.file [], 0o644⟩,
        ⟨.file [], 0o644⟩], [0]⟩
    let other := tree.setNode 1 ⟨.directory entries.reverse, 0o755⟩
    tree.Proper ∧ tree.Relisted other ∧
      select tree [0x64] (fun _ => true) =
        .ok [⟨[0x64, 0x2F, 0x61, 0xFF], []⟩, ⟨[0x64, 0x2F, 0x61, 0xFD], []⟩] ∧
      select other [0x64] (fun _ => true) =
        .ok [⟨[0x64, 0x2F, 0x61, 0xFD], []⟩, ⟨[0x64, 0x2F, 0x61, 0xFE], []⟩] := by
  intro entries tree other
  have isListed : entriesOf tree [0x64] = .ok entries := by decide +kernel
  have isListed' : entriesOf other [0x64] = .ok entries.reverse := by decide +kernel
  refine ⟨by decide +kernel, ?_, ?_, ?_⟩
  · exact FileTree.relisted_setNode rfl entries.reverse_perm.symm
  · exact (select_of_ascending isListed (by decide +kernel)).trans (by decide +kernel)
  · exact (select_of_ascending isListed' (by decide +kernel)).trans (by decide +kernel)

end EnvInject

/-
In a tree without links a text is written to a file whole or not at all,
whichever step of the write the system refuses (`written_or_spared`). A write
has three parts. It makes the folders that are missing on the way to the target
(`Paved`); it writes the temporary file (`Drafted`); and it puts that in the
target's place (`Replaced`), or takes it away again when a step has failed. Only
the target may come to hold something new, and every place but the target's is
`Spared`.

Spared does not say untouched. The name of the temporary file is made from the
target's name and may be taken: a file that had it is emptied when the
temporary file is opened, and is gone in the end (`older_temporary_lost`). And
where the system refuses to take the temporary file away, it stays.
-/
import Marginalia.Proofs.Files.Changes

namespace Marginalia

namespace Workspace

variable {w w' w₁ w₂ : Workspace} {p target : Path} {here place : Location}
  {content : Utf8.Bytes} {refusals : Refusals} {t : Text} {fault : WriteFault}

-- ========================================================== the way there

/-- The path goes through the place. -/
def OnWay (w : Workspace) (p : Path) (place : Location) : Prop :=
  ∃ above, above <+: p.parts ∧ w.Leads ⟨p.root, above⟩ place

/-- Folders that were missing on the way have been made, and nothing else. -/
structure Paved (w w' : Workspace) (p : Path) : Prop where
  cwd : w'.cwd = w.cwd
  node : ∀ place, w'.tree.node? place = w.tree.node? place
    ∨ w.tree.node? place = none ∧ w'.tree.node? place = some .folder
      ∧ w'.OnWay p place

theorem Paved.refl (w : Workspace) (p : Path) : Paved w w p :=
  ⟨rfl, fun _ => .inl rfl⟩

theorem Paved.keepsFolders (h : Paved w w' p) : KeepsFolders w w' :=
  ⟨h.cwd, fun place hplace => by
    rcases h.node place with hsame | ⟨hnone, -, -⟩
    · rw [hsame, hplace]
    · rw [hnone] at hplace
      cases hplace⟩

theorem OnWay.mono (h : w.OnWay p place) (hkeep : KeepsFolders w w')
    (hthere : w'.tree.node? place ≠ none) : w'.OnWay p place := by
  obtain ⟨above, habove, hleads⟩ := h
  exact ⟨above, habove, hleads.mono hkeep hthere⟩

theorem Paved.trans (h : Paved w w₁ p) (h' : Paved w₁ w' p) :
    Paved w w' p := by
  refine ⟨h'.cwd.trans h.cwd, fun place => ?_⟩
  rcases h'.node place with hsame' | ⟨hnone', hfolder', hway'⟩
  · rcases h.node place with hsame | ⟨hnone, hfolder, hway⟩
    · exact .inl (hsame'.trans hsame)
    · rw [hsame']
      exact .inr ⟨hnone, hfolder,
        hway.mono h'.keepsFolders (by simp [hsame', hfolder])⟩
  · rcases h.node place with hsame | ⟨-, hfolder, -⟩
    · exact .inr ⟨hsame ▸ hnone', hfolder', hway'⟩
    · rw [hfolder] at hnone'
      cases hnone'

/-- A way that goes on goes through what the way before went through. -/
theorem Paved.longer {above : List Text} (habove : above <+: p.parts)
    (h : Paved w w' ⟨p.root, above⟩) : Paved w w' p :=
  ⟨h.cwd, fun place => (h.node place).imp_right
    fun ⟨hnone, hfolder, first, hfirst, hleads⟩ =>
      ⟨hnone, hfolder, first, hfirst.trans habove, hleads⟩⟩

theorem makeFolder_paved (h : w.makeFolder p = .ok w') : Paved w w' p := by
  obtain ⟨hparts, hname, here, hhere, hnone, hchanges⟩ := makeFolder_ok h
  have hkeep := hchanges.keepsFolders (by simp [hnone])
  obtain ⟨-, hlocate, hfolder⟩ := folderOf_eq_ok.1 hhere
  refine ⟨hchanges.cwd, fun place => ?_⟩
  by_cases hplace : place = here ++ [p.name]
  · subst hplace
    have hnew := hchanges.self
    have hparent := hkeep.leads (locate_eq_ok.1 hlocate).2 hfolder
    have hleads := (leads_iff hparts hname).2
      ⟨here, hparent, hkeep.folder here hfolder, rfl, by simp [hnew]⟩
    exact .inr ⟨hnone, hnew, p.parts, List.prefix_rfl, hleads⟩
  · exact .inl (hchanges.other hplace)

theorem ensureFolder_paved (w : Workspace) (refusals : Refusals) (p : Path) :
    Paved w (w.ensureFolder refusals p).1 p := by
  unfold ensureFolder
  split
  · rename_i w' hmake
    split
    · exact .refl w p
    · exact makeFolder_paved hmake
  · split <;> exact .refl w p

/-- However far the folders above a target are made, only folders on the way
are. -/
theorem ensureFolders_paved (refusals : Refusals) (root : Text)
    (w : Workspace) (names : List Text) :
    Paved w (ensureFoldersUnless refusals root w names).1
      ⟨root, names.reverse⟩ := by
  induction names generalizing w with
  | nil => exact ensureFolder_paved ..
  | cons name above ih =>
      rw [ensureFoldersUnless]
      have habove : above.reverse <+: (name :: above).reverse := by simp
      split
      · have hpaved : Paved w (ensureFoldersUnless refusals root w above).1
            ⟨root, (name :: above).reverse⟩ := (ih w).longer habove
        split
        · rename_i w₁ fault hensure
          rw [hensure] at hpaved
          exact hpaved
        · rename_i w₁ hensure
          rw [hensure] at hpaved
          exact hpaved.trans (ensureFolder_paved ..)
      · exact ensureFolder_paved ..

theorem paved_of_ensureFolders {outcome : Option WriteFault}
    (h : ensureFoldersUnless refusals target.root w
      target.parent.parts.reverse = (w', outcome)) :
    Paved w w' target.parent := by
  have hpaved := ensureFolders_paved refusals target.root w
    target.parent.parts.reverse
  rwa [h, List.reverse_reverse] at hpaved

-- ===================================================== the temporary file

theorem temporaryFor_parts : (temporaryFor target).parts ≠ [] := by
  simp [temporaryFor, Path.child]

theorem temporaryFor_parent : (temporaryFor target).parent = target.parent := by
  simp [temporaryFor, Path.child, Path.parent]

theorem temporaryFor_name :
    (temporaryFor target).name = "." ++ target.name ++ ".tmp" := by
  simp [temporaryFor, Path.child, Path.name]

theorem temporaryFor_name_length (target : Path) :
    (temporaryFor target).name.length = target.name.length + 5 := by
  have hdot : ("." : Text).length = 1 := rfl
  have htmp : (".tmp" : Text).length = 4 := rfl
  rw [temporaryFor_name, List.length_append, List.length_append, hdot, htmp]
  omega

theorem temporaryFor_name_ne : (temporaryFor target).name ≠ target.name := by
  intro h
  have hlength := temporaryFor_name_length target
  rw [h] at hlength
  omega

theorem temporaryFor_name_ne_up : (temporaryFor target).name ≠ Path.up := by
  intro h
  have hlength := temporaryFor_name_length target
  rw [h] at hlength
  have hup : Path.up.length = 2 := rfl
  omega

/-- What is seen at the place of the temporary file has changed, and all else
is as it was. -/
structure Drafted (w w' : Workspace) (target : Path) (here : Location)
    (node : Option Node) : Prop where
  leads : w.Leads target.parent here
  folder : w.tree.node? here = some .folder
  free : w.tree.node? (here ++ [(temporaryFor target).name]) ≠ some .folder
  changes : Changes w (here ++ [(temporaryFor target).name]) node w'

theorem Written.drafted (h : Written w (temporaryFor target) content here w') :
    Drafted w w' target here (some (.file content)) :=
  ⟨temporaryFor_parent ▸ h.leads.1, (folderOf_eq_ok.1 h.folder).2.2, h.free,
    h.changes⟩

/-- What is taken away at the end is a file of the temporary file's name,
whoever wrote it. -/
theorem removeFile_drafted (w : Workspace) (target : Path) :
    w.removeFile (temporaryFor target) = w
      ∨ ∃ here,
        Drafted w (w.removeFile (temporaryFor target)) target here none := by
  by_cases hfile : w.isFile (temporaryFor target) = true
  · obtain ⟨content, hcontent⟩ := exists_bytesAt hfile
    obtain ⟨here, hhere, hfolder, hnode, hchanges⟩ :=
      removeFile_ok temporaryFor_parts temporaryFor_name_ne_up hcontent
    rw [temporaryFor_parent] at hhere
    exact .inr ⟨here, hhere, hfolder, by simp [hnode], hchanges⟩
  · exact .inl (removeFile_of_not_isFile hfile)

/-- A temporary file that was written is taken away again. -/
theorem Written.removed (h : Written w (temporaryFor target) content here w') :
    Drafted w (w'.removeFile (temporaryFor target)) target here none := by
  obtain ⟨here', hhere', -, -, hchanges⟩ := removeFile_ok temporaryFor_parts
    temporaryFor_name_ne_up (h.bytesAt temporaryFor_parts)
  obtain rfl := h.leads.2.unique hhere'
  exact { h.drafted with changes := h.changes.trans hchanges }

/-- What may be at the place of the temporary file after a fault: nothing, or
a file that the system does not take away. -/
def Withdrawn (refusals : Refusals) (node : Option Node) : Prop :=
  node = none
    ∨ refusals .removal = true ∧ ∃ content, node = some (.file content)

/-- A temporary file that was written is taken away again, or stays where
that is refused. -/
theorem Written.withdrawn (refusals : Refusals)
    (h : Written w (temporaryFor target) content here w') :
    ∃ node, Withdrawn refusals node
      ∧ Drafted w (w'.withdraw refusals target) target here node := by
  unfold withdraw
  split
  · rename_i hrefused
    exact ⟨_, .inr ⟨hrefused, content, rfl⟩, h.drafted⟩
  · exact ⟨_, .inl rfl, h.removed⟩

/-- Where the temporary file was not written, it may have been opened and
emptied. -/
theorem writeTemporary_fault
    (h : w.writeTemporary refusals target t = (w', some fault)) :
    w' = w ∨ ∃ here, Written w (temporaryFor target) [] here w' := by
  unfold writeTemporary at h
  split at h
  · cases h
    exact .inl rfl
  · split at h
    · cases h
      exact .inl rfl
    · rename_i opened hopen
      have hopened := writeFile_ok hopen
      split at h
      · cases h
        exact .inr hopened
      · split at h
        · cases h
          exact .inr hopened
        · split at h
          · cases h
            exact .inr hopened
          · cases h

theorem writeTemporary_ok
    (h : w.writeTemporary refusals target t = (w', none)) :
    ∃ content here, Utf8.encode t = some content
      ∧ Written w (temporaryFor target) content here w' := by
  unfold writeTemporary at h
  split at h
  · cases h
  · split at h
    · cases h
    · rename_i opened hopen
      obtain ⟨here, hopened⟩ := writeFile_ok hopen
      split at h
      · cases h
      · split at h
        · cases h
        · rename_i content hencode
          split at h
          · cases h
          · rename_i written hwrite
            cases h
            obtain ⟨here', hwritten⟩ := writeFile_ok hwrite
            exact ⟨content, here, hencode, hopened.again hwritten⟩

theorem moveToTarget_fault
    (h : w.moveToTarget refusals target = (w', some fault)) : w' = w := by
  unfold moveToTarget at h
  grind

theorem moveToTarget_ok (h : w.moveToTarget refusals target = (w', none)) :
    ∃ content here moved, w.bytesAt (temporaryFor target) = .ok content
      ∧ Written w target content here moved
      ∧ w' = moved.removeFile (temporaryFor target) := by
  unfold moveToTarget at h
  split at h
  · cases h
  · split at h
    · cases h
    · rename_i content hcontent
      split at h
      · cases h
      · rename_i moved hmove
        cases h
        obtain ⟨here, hwritten⟩ := writeFile_ok hmove
        exact ⟨content, here, moved, hcontent, hwritten, rfl⟩

-- ============================================================ the outcomes

theorem parts_ne_nil_of_name (h : ¬p.name.isEmpty = true) : p.parts ≠ [] := by
  intro hnil
  simp [Path.name, hnil] at h

/-- A write that fails has made folders on the way to the target, and what
else has changed is the temporary file. -/
theorem writeAtomically_fault
    (h : w.writeAtomically refusals target t = (w', some fault)) :
    ∃ w₁, Paved w w₁ target.parent
      ∧ (w' = w₁ ∨ ∃ here node, Withdrawn refusals node
        ∧ Drafted w₁ w' target here node) := by
  unfold writeAtomically at h
  split at h
  · rename_i w₁ fault' hensure
    cases h
    exact ⟨_, paved_of_ensureFolders hensure, .inl rfl⟩
  · rename_i w₁ hensure
    refine ⟨w₁, paved_of_ensureFolders hensure, ?_⟩
    split at h
    · cases h
      exact .inl rfl
    · split at h
      · rename_i w₂ fault' htemporary
        cases h
        rcases writeTemporary_fault htemporary with rfl | ⟨here, hwritten⟩
        · unfold withdraw
          split
          · exact .inl rfl
          · exact (removeFile_drafted ..).imp_right
              fun ⟨here, hdrafted⟩ => ⟨here, none, .inl rfl, hdrafted⟩
        · exact .inr ⟨here, hwritten.withdrawn refusals⟩
      · rename_i w₂ htemporary
        obtain ⟨content, here, -, hwritten⟩ := writeTemporary_ok htemporary
        split at h
        · rename_i w₃ fault' hmove
          cases h
          obtain rfl := moveToTarget_fault hmove
          exact .inr ⟨here, hwritten.withdrawn refusals⟩
        · cases h

/-- A target has been written, and there is no temporary file any more. -/
structure Replaced (w w' : Workspace) (target : Path) (content : Utf8.Bytes)
    (here : Location) : Prop where
  leads : w.Leads target.parent here
  folder : w.tree.node? here = some .folder
  free : w.tree.node? (here ++ [target.name]) ≠ some .folder
  cleared : w.tree.node? (here ++ [(temporaryFor target).name]) ≠ some .folder
  cwd : w'.cwd = w.cwd
  tree : w'.tree.node? = Function.update
    (Function.update w.tree.node? (here ++ [target.name])
      (some (.file content)))
    (here ++ [(temporaryFor target).name]) none
  bytes : w'.bytesAt target = .ok content

theorem temporary_ne_target :
    here ++ [target.name] ≠ here ++ [(temporaryFor target).name] := by
  simpa using temporaryFor_name_ne.symm

/-- The temporary file is moved: what it held is in the target, and it is not
there any more. -/
theorem Written.replaced (hparts : target.parts ≠ [])
    (h : Written w (temporaryFor target) content here w₁)
    (hmove : w₁.moveToTarget refusals target = (w', none)) :
    Replaced w w' target content here := by
  obtain ⟨content', there, moved, hcontent, hmoved, rfl⟩ :=
    moveToTarget_ok hmove
  have hleads := h.leads
  rw [temporaryFor_parent] at hleads
  obtain rfl := hleads.2.unique hmoved.leads.1
  obtain rfl : content = content' :=
    Except.ok.inj ((h.bytesAt temporaryFor_parts).symm.trans hcontent)
  -- The temporary file is still there when it is to be taken away.
  obtain ⟨here', hhere', -, hold, hcleared⟩ := removeFile_ok temporaryFor_parts
    temporaryFor_name_ne_up (bytesAt_eq_ok.2 ⟨_, hmoved.changes.locate
      hmoved.free temporary_ne_target.symm (h.locate temporaryFor_parts)⟩)
  rw [temporaryFor_parent] at hhere'
  obtain rfl := hmoved.leads.2.unique hhere'
  refine ⟨hleads.1, (folderOf_eq_ok.1 h.folder).2.2, ?_, h.free, ?_, ?_, ?_⟩
  · rw [← h.changes.other temporary_ne_target]
    exact hmoved.free
  · rw [hcleared.cwd, hmoved.changes.cwd, h.changes.cwd]
  · rw [hcleared.tree, hmoved.changes.tree, h.changes.tree,
      Function.update_comm temporary_ne_target.symm, Function.update_idem]
  · exact bytesAt_eq_ok.2 ⟨_, hcleared.locate (by simp [hold])
      temporary_ne_target (hmoved.locate hparts)⟩

/-- A write that succeeds has made folders on the way to the target before it
replaced the target. -/
theorem writeAtomically_ok
    (h : w.writeAtomically refusals target t = (w', none)) :
    ∃ w₁ content here, Paved w w₁ target.parent
      ∧ Utf8.encode t = some content
      ∧ Replaced w₁ w' target content here := by
  unfold writeAtomically at h
  split at h
  · cases h
  · rename_i w₁ hensure
    split at h
    · cases h
    · rename_i hname
      have hparts := parts_ne_nil_of_name hname
      split at h
      · cases h
      · rename_i w₂ htemporary
        obtain ⟨content, here, hencode, hwritten⟩ :=
          writeTemporary_ok htemporary
        split at h
        · cases h
        · rename_i w₃ hmove
          cases h
          exact ⟨w₁, content, here, paved_of_ensureFolders hensure, hencode,
            hwritten.replaced hparts hmove⟩

-- ======================================================= what is spared

/-- What a write does at a place that is not the target's. -/
inductive Spared (refusals : Refusals) (w w' : Workspace) (target : Path)
    (place : Location) : Prop
  /-- What was there, if anything, is there. -/
  | kept (h : w'.tree.node? place = w.tree.node? place)
  /-- A folder was missing on the way to the target, and is there. -/
  | paved (hold : w.tree.node? place = none)
      (hnew : w'.tree.node? place = some .folder)
      (hway : w'.OnWay target.parent place)
  /-- A file had the name of the temporary file, and is gone. -/
  | cleared (here : Location) (hhere : w'.Leads target.parent here)
      (hplace : place = here ++ [(temporaryFor target).name])
      (hold : ∃ content, w.tree.node? place = some (.file content))
      (hnew : w'.tree.node? place = none)
  /-- The temporary file is there, for the system has refused to take it
  away. -/
  | left (here : Location) (hhere : w'.Leads target.parent here)
      (hplace : place = here ++ [(temporaryFor target).name])
      (hold : w.tree.node? place ≠ some .folder)
      (hnew : ∃ content, w'.tree.node? place = some (.file content))
      (hrefused : refusals .removal = true)

/-- A file that is there now was there before, or is the temporary file. -/
theorem Spared.file_old (h : Spared refusals w w' target place)
    (hplace : ∀ here, w'.Leads target.parent here →
      place ≠ here ++ [(temporaryFor target).name])
    (hnode : w'.tree.node? place = some (.file content)) :
    w.tree.node? place = some (.file content) := by
  cases h with
  | kept hkept => exact hkept.symm.trans hnode
  | paved _ hnew _ =>
      rw [hnew] at hnode
      cases hnode
  | cleared here hhere htemporary => exact absurd htemporary (hplace here hhere)
  | left here hhere htemporary => exact absurd htemporary (hplace here hhere)

/-- What making folders on the way has spared stays so when the folders are
kept. -/
theorem Paved.spared (h : Paved w w₁ target.parent)
    (hkeep : KeepsFolders w₁ w')
    (hsame : w'.tree.node? place = w₁.tree.node? place) :
    Spared refusals w w' target place := by
  rcases h.node place with hkept | ⟨hnone, hfolder, hway⟩
  · exact .kept (hsame.trans hkept)
  · have hnew := hsame.trans hfolder
    exact .paved hnone hnew (hway.mono hkeep (by simp [hnew]))

/-- The place of the temporary file is empty, as it was, or it had a file, or
it has one still. -/
theorem Paved.spared_temporary (h : Paved w w₁ target.parent)
    (hhere : w'.Leads target.parent here)
    (hold : w₁.tree.node? (here ++ [(temporaryFor target).name])
      ≠ some .folder)
    (hnew : Withdrawn refusals
      (w'.tree.node? (here ++ [(temporaryFor target).name]))) :
    Spared refusals w w' target (here ++ [(temporaryFor target).name]) := by
  have hfree : w.tree.node? (here ++ [(temporaryFor target).name])
      ≠ some .folder := fun hfolder => hold (h.keepsFolders.folder _ hfolder)
  rcases hnew with hnew | ⟨hrefused, hnew⟩
  · cases hnode : w.tree.node? (here ++ [(temporaryFor target).name]) with
    | none => exact .kept (hnew.trans hnode.symm)
    | some node =>
        cases node with
        | folder => exact absurd hnode hfree
        | file content => exact .cleared here hhere rfl ⟨content, hnode⟩ hnew
  · exact .left here hhere rfl hfree hnew hrefused

/-- All is spared where nothing but the temporary file has changed. -/
theorem Paved.spared_of_draft (h : Paved w w₁ target.parent)
    (hkeep : KeepsFolders w₁ w') (hleads : w₁.Leads target.parent here)
    (hfolder : w₁.tree.node? here = some .folder)
    (hold : w₁.tree.node? (here ++ [(temporaryFor target).name])
      ≠ some .folder)
    (hnew : Withdrawn refusals
      (w'.tree.node? (here ++ [(temporaryFor target).name])))
    (hsame : place ≠ here ++ [(temporaryFor target).name] →
      w'.tree.node? place = w₁.tree.node? place) :
    Spared refusals w w' target place := by
  by_cases hplace : place = here ++ [(temporaryFor target).name]
  · subst hplace
    exact h.spared_temporary (hkeep.leads hleads hfolder) hold hnew
  · exact h.spared hkeep (hsame hplace)

theorem Drafted.spared {node : Option Node} (hpaved : Paved w w₁ target.parent)
    (hnode : Withdrawn refusals node) (h : Drafted w₁ w' target here node)
    (place : Location) : Spared refusals w w' target place := by
  refine hpaved.spared_of_draft (h.changes.keepsFolders h.free) h.leads
    h.folder h.free ?_ h.changes.other
  rwa [h.changes.self]

theorem Replaced.keepsFolders (h : Replaced w w' target content here) :
    KeepsFolders w w' :=
  ⟨h.cwd, fun place hplace => by
    rw [h.tree, Function.update_of_ne (by rintro rfl; exact h.cleared hplace),
      Function.update_of_ne (by rintro rfl; exact h.free hplace)]
    exact hplace⟩

theorem Replaced.spared (hpaved : Paved w w₁ target.parent)
    (h : Replaced w₁ w' target content here)
    (hplace : place ≠ here ++ [target.name]) :
    Spared refusals w w' target place := by
  refine hpaved.spared_of_draft h.keepsFolders h.leads h.folder h.cleared
    (.inl ?_) fun hother => ?_
  · rw [h.tree, Function.update_self]
  · rw [h.tree, Function.update_of_ne hother, Function.update_of_ne hplace]

/-- A file stays when folders are made on the way to another. -/
theorem Paved.locate {q : Path} (h : Paved w w' p)
    (hfile : w.locate q = .ok place
      ∧ w.tree.node? place = some (.file content)) :
    w'.locate q = .ok place ∧ w'.tree.node? place = some (.file content) := by
  have hnode : w'.tree.node? place = some (.file content) := by
    rcases h.node place with hsame | ⟨hnone, -, -⟩
    · exact hsame.trans hfile.2
    · rw [hfile.2] at hnone
      cases hnone
  exact ⟨h.keepsFolders.locate hfile.1 (by simp [hnode]), hnode⟩

/-- The file that a target leads to is not where the temporary file is. -/
theorem ne_temporary (hleads : w.Leads target place)
    (hfile : w.tree.node? place = some (.file content))
    (hhere : w.Leads target.parent here) :
    place ≠ here ++ [(temporaryFor target).name] := by
  by_cases hparts : target.parts = []
  · have hparent : target.parent = target := by
      unfold Path.parent
      rw [hparts]
      cases target
      cases hparts
      rfl
    rw [hparent] at hhere
    rw [hleads.unique hhere]
    simp
  · obtain ⟨here', hhere', -, rfl, -⟩ :=
      (leads_iff hparts (name_ne_up_of_file hparts hleads hfile)).1 hleads
    obtain rfl := hhere.unique hhere'
    exact temporary_ne_target

/-- A target stays when all that changes is the temporary file. -/
theorem Drafted.locate {node : Option Node} (h : Drafted w w' target here node)
    (hfile : w.locate target = .ok place
      ∧ w.tree.node? place = some (.file content)) :
    w'.locate target = .ok place
      ∧ w'.tree.node? place = some (.file content) :=
  h.changes.locate h.free
    (ne_temporary (locate_eq_ok.1 hfile.1).2 hfile.2 h.leads) hfile

-- ============================================================== no fault

/-- A folder that is there is not made, and not for want of the folder
above. -/
theorem makeFolder_of_isFolder (h : w.isFolder p = true) :
    ∃ fault, w.makeFolder p = .error fault ∧ fault ≠ .missing := by
  obtain ⟨place, hlocate, hnode⟩ := isFolder_iff.1 h
  obtain ⟨hsize, hleads⟩ := locate_eq_ok.1 hlocate
  unfold makeFolder
  split
  · exact ⟨_, rfl, by decide⟩
  · rename_i name hlast
    obtain ⟨hparts, hname⟩ := Path.name_of_getLast? hlast
    obtain ⟨here, hparent, hfolder⟩ := hleads.parent hparts
    cases hlong : isLongerThan maxPathSize p.parent.toText with
    | true =>
        have hof : w.folderOf p = .error .nameTooLong := by
          simp [folderOf, locate, hsize, hlong]
        rw [hof]
        exact ⟨_, rfl, by decide⟩
    | false =>
        rw [folderOf_eq_ok.2 ⟨hsize, locate_eq_ok.2 ⟨hlong, hparent⟩, hfolder⟩]
        dsimp only
        rw [if_pos]
        · exact ⟨_, rfl, by decide⟩
        · rw [Bool.or_eq_true, decide_eq_true_eq, ← hname]
          refine or_iff_not_imp_left.2 fun hne => ?_
          obtain ⟨here', hparent', -, rfl, hthere⟩ :=
            (leads_iff hparts hne).1 hleads
          obtain rfl := hparent.unique hparent'
          rwa [Option.isSome_iff_ne_none, ne_eq, ← Tree.node?_eq_none]

theorem ensureFolder_of_isFolder (h : w.isFolder p = true) :
    w.ensureFolder refusals p = (w, none) := by
  obtain ⟨fault, hmake, -⟩ := makeFolder_of_isFolder h
  unfold ensureFolder
  rw [hmake]
  dsimp only
  rw [if_pos h]

theorem ensureFolders_of_isFolder {root : Text} {names : List Text}
    (h : w.isFolder ⟨root, names.reverse⟩ = true) :
    ensureFoldersUnless refusals root w names = (w, none) := by
  cases names with
  | nil => exact ensureFolder_of_isFolder h
  | cons name above =>
      obtain ⟨fault, hmake, hfault⟩ := makeFolder_of_isFolder h
      rw [ensureFoldersUnless, hmake]
      split
      · rename_i heq
        cases heq
        exact absurd rfl hfault
      · exact ensureFolder_of_isFolder h

/-- Nothing stands against a write: the folder is there, the target and the
temporary file may be files in it, and the text has an encoding. -/
structure Ready (w : Workspace) (target : Path) (t : Text)
    (here : Location) : Prop where
  named : target.name.isEmpty = false
  final : Writable w target here
  finalSize : isLongerThan maxNameSize target.name = false
  temporary : Writable w (temporaryFor target) here
  temporarySize : isLongerThan maxNameSize (temporaryFor target).name = false
  text : (Utf8.encode t).isSome

/-- A system that refuses nothing writes a text when nothing stands against
it. -/
theorem Ready.writeAtomically (h : Ready w target t here) :
    ∃ w', w.writeAtomically .none target t = (w', none) := by
  obtain ⟨hsize, hlocate, hfolder⟩ := folderOf_eq_ok.1 h.final.folder
  have hensure : ensureFoldersUnless .none target.root w
      target.parent.parts.reverse = (w, none) := by
    refine ensureFolders_of_isFolder ?_
    rw [List.reverse_reverse]
    exact isFolder_iff.2 ⟨here, hlocate, hfolder⟩
  obtain ⟨content, hcontent⟩ := Option.isSome_iff_exists.1 h.text
  -- The temporary file is opened and written.
  obtain ⟨opened, hopen, hopened⟩ :=
    h.temporary.writeFile h.temporarySize []
  obtain ⟨written, hwrite, hwritten⟩ :=
    (h.temporary.mono hopened).writeFile h.temporarySize content
  -- The target is written with what it holds.
  obtain ⟨moved, hmove, -⟩ := ((h.final.mono hopened).mono hwritten).writeFile
    h.finalSize content
  have hname : target.name ≠ [.scalar '.', .scalar '.'] := h.final.name
  unfold Workspace.writeAtomically
  simp [hensure, h.named, writeTemporary, Refusals.none, hopen, hcontent,
    hwrite, moveToTarget, hname, hwritten.bytesAt temporaryFor_parts, hmove]

example : Ready ⟨.folder [("a.json", .file [107])], []⟩ (Path.ofText "a.json")
    "x" [] :=
  ⟨by decide, ⟨by decide, by decide, by decide⟩, by decide,
    ⟨by decide, by decide, by decide⟩, by decide, by decide⟩

/-- When a write succeeds, the target holds the encoding of the text and there
is no temporary file. When it fails, the system has refused a step or the
target could not be written, and the target holds what it held, or nothing
still. Every other place is spared either way. -/
theorem written_or_spared (w : Workspace) (refusals : Refusals)
    (target : Path) (t : Text) :
    match w.writeAtomically refusals target t with
    | (w', none) =>
        ∃ here content, Utf8.encode t = some content
          ∧ w'.Leads target.parent here
          ∧ w'.bytesAt target = .ok content
          ∧ w'.tree.node? (here ++ [target.name]) = some (.file content)
          ∧ w'.tree.node? (here ++ [(temporaryFor target).name]) = none
          ∧ ∀ place, place ≠ here ++ [target.name] →
            Spared refusals w w' target place
    | (w', some _) =>
        (∀ here, w.Ready target t here → refusals ≠ .none)
        ∧ (∀ content, w.bytesAt target = .ok content →
          w'.bytesAt target = .ok content)
        ∧ (∀ content, w'.bytesAt target = .ok content →
          ∃ place, w'.locate target = .ok place
            ∧ w.tree.node? place = some (.file content))
        ∧ ∀ place, Spared refusals w w' target place := by
  split
  · rename_i w' h
    obtain ⟨w₁, content, here, hpaved, hencode, hreplaced⟩ :=
      writeAtomically_ok h
    have hkeep := hreplaced.keepsFolders
    refine ⟨here, content, hencode, hkeep.leads hreplaced.leads
      hreplaced.folder, hreplaced.bytes, ?_, ?_,
      fun place hplace => hreplaced.spared hpaved hplace⟩
    · rw [hreplaced.tree, Function.update_of_ne temporary_ne_target,
        Function.update_self]
    · rw [hreplaced.tree, Function.update_self]
  · rename_i w' fault h
    obtain ⟨w₁, hpaved, hrest⟩ := writeAtomically_fault h
    have hspared : ∀ place, Spared refusals w w' target place := by
      intro place
      rcases hrest with rfl | ⟨here, node, hnode, hdrafted⟩
      · exact hpaved.spared (.refl w') rfl
      · exact hdrafted.spared hpaved hnode place
    refine ⟨?_, ?_, ?_, hspared⟩
    · rintro here hready rfl
      obtain ⟨w'', hwritten⟩ := hready.writeAtomically
      rw [hwritten] at h
      cases h
    · intro content hcontent
      obtain ⟨place, hfile⟩ := bytesAt_eq_ok.1 hcontent
      rcases hrest with rfl | ⟨here, node, -, hdrafted⟩
      · exact bytesAt_eq_ok.2 ⟨place, hpaved.locate hfile⟩
      · exact bytesAt_eq_ok.2 ⟨place, hdrafted.locate (hpaved.locate hfile)⟩
    · intro content hcontent
      obtain ⟨place, hplace, hnode⟩ := bytesAt_eq_ok.1 hcontent
      have hleads := (locate_eq_ok.1 hplace).2
      exact ⟨place, hplace, (hspared place).file_old
        (fun here hhere => ne_temporary hleads hnode hhere) hnode⟩

/-- A file of the temporary file's name is lost, so not every file but the
target is spared. -/
theorem older_temporary_lost :
    ¬ ∀ (w : Workspace) (target : Path) (t : Text) (w' : Workspace),
      w.writeAtomically .none target t = (w', none) →
      ∀ place content, ¬ w'.Leads target place →
        w.tree.node? place = some (.file content) →
        w'.tree.node? place = some (.file content) := by
  intro h
  have hlost := h ⟨.folder [(".r.json.tmp", .file [107])], []⟩
    (Path.ofText "r.json") "x" _ rfl [".r.json.tmp"] [107]
    (by unfold Leads; decide) rfl
  revert hlost
  decide

end Workspace

end Marginalia

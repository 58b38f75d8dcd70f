import Textile.Command.Host

/-!
# Reading and writing files

What reading and writing do on a tree of folders and files, in terms of the places that paths lead
to.

* **Reading** (`read_eq_ok_iff`): the content is that of a file the path leads to. A text comes out
  unless the file is missing, is a folder, or holds bytes of no text (`textless_iff`).
* **Writing** (`write_eq_ok_iff`, `exists_write_iff`): a path that does not end in a slash and leads
  to a place without a folder can be written. Then one file has the new content
  (`wrote_of_write`, `Wrote.holds`) and everything else is as before.
-/

namespace Textile.Command

/-- The bytes of a text are read as that text, and no other bytes are. -/
theorem fromUTF8?_eq_some_iff {bytes : ByteArray} {text : String} :
    String.fromUTF8? bytes = some text ↔ bytes = text.toUTF8 := by
  constructor
  · intro h
    unfold String.fromUTF8? at h
    split at h
    · cases h
      rfl
    · cases h
  · rintro rfl
    exact dif_pos text.isValidUTF8

namespace Tree

variable {tree next : Tree} {path : String} {content : ByteArray}

/-! ## Reading -/

/-- A path leads to a file with a content. -/
def Holds (tree : Tree) (path : String) (content : ByteArray) : Prop :=
  ∃ place, tree.place? path = .ok place ∧ tree.isFolder place = false ∧
    tree.content? place = some content

theorem read_eq_ok_iff : tree.read path = .ok content ↔ tree.Holds path content := by
  unfold read Holds
  cases hplace : tree.place? path with
  | error obstacle => simp [Except.bind]
  | ok place =>
      cases hfolder : tree.isFolder place with
      | true => simp [Except.bind, hfolder]
      | false =>
          cases hcontent : tree.content? place with
          | none => simp [Except.bind, hfolder, hcontent]
          | some present => simp [Except.bind, hfolder, hcontent]

/-- There is no text where a path leads to. -/
inductive Textless (tree : Tree) (path : String) : Prop
  | missing (h : ∀ place, tree.place? path = .ok place →
      tree.isFolder place = false ∧ tree.content? place = none)
  | folder {place : Place} (hplace : tree.place? path = .ok place)
      (hfolder : tree.isFolder place = true)
  | notUtf8 {place : Place} (hplace : tree.place? path = .ok place) {bytes : ByteArray}
      (hcontent : tree.content? place = some bytes) (hbytes : ¬bytes.IsValidUTF8)

/-- A file without a text is missing, is a folder, or holds bytes of no text. -/
theorem textless_iff : tree.Textless path ↔ ∀ text : String, ¬tree.Holds path text.toUTF8 := by
  constructor
  · rintro h text ⟨place, hplace, hfile, hcontent⟩
    cases h with
    | missing h => simp [(h place hplace).2] at hcontent
    | folder hplace' hfolder =>
        obtain rfl := Except.ok.inj (hplace.symm.trans hplace')
        simp [hfile] at hfolder
    | notUtf8 hplace' hcontent' hbytes =>
        obtain rfl := Except.ok.inj (hplace.symm.trans hplace')
        obtain rfl := Option.some.inj (hcontent.symm.trans hcontent')
        exact hbytes text.isValidUTF8
  · intro h
    cases hplace : tree.place? path with
    | error obstacle =>
        refine .missing fun place hplace' => ?_
        rw [hplace] at hplace'
        cases hplace'
    | ok place =>
        cases hfolder : tree.isFolder place with
        | true => exact .folder hplace hfolder
        | false =>
            cases hcontent : tree.content? place with
            | none =>
                refine .missing fun place' hplace' => ?_
                obtain rfl := Except.ok.inj (hplace.symm.trans hplace')
                exact ⟨hfolder, hcontent⟩
            | some bytes =>
                refine .notUtf8 hplace hcontent fun hbytes => ?_
                exact h (String.fromUTF8 bytes hbytes) ⟨place, hplace, hfolder, hcontent⟩

/-! ## Writing -/

/-- A file can be written where a path leads to. -/
def Writable (tree : Tree) (path : String) : Prop :=
  path.toList.getLast? ≠ some '/' ∧
    ∃ place, tree.place? path = .ok place ∧ tree.isFolder place = false

/-- Of several files at a place the first one counts. -/
theorem lookup_cons_eq (present other : Place) (bytes : ByteArray)
    (files : List (Place × ByteArray)) :
    ((present, bytes) :: files).lookup other =
      if other = present then some bytes else files.lookup other := by
  by_cases h : other = present
  · rw [if_pos h, h, List.lookup_cons_self]
  · rw [if_neg h, List.lookup_cons, beq_false_of_ne h]

/-- The content after a write: new at the place, and as it was at all others. -/
theorem lookup_put (files : List (Place × ByteArray)) (place other : Place) (content : ByteArray) :
    (put files place content).lookup other =
      if other = place then some content else files.lookup other := by
  induction files with
  | nil => exact lookup_cons_eq place other content []
  | cons file files ih =>
      obtain ⟨present, bytes⟩ := file
      rw [put]
      by_cases hpresent : present = place
      · rw [if_pos hpresent, lookup_cons_eq, lookup_cons_eq, hpresent]
        split <;> rfl
      · rw [if_neg hpresent, lookup_cons_eq, lookup_cons_eq, ih]
        by_cases h : other = present
        · rw [if_pos h, if_pos h, if_neg (h ▸ hpresent)]
        · rw [if_neg h, if_neg h]

theorem write_eq_ok_iff :
    tree.write path content = .ok next ↔
      path.toList.getLast? ≠ some '/' ∧ ∃ place,
        tree.place? path = .ok place ∧ tree.isFolder place = false ∧
          next = { tree with files := put tree.files place content } := by
  by_cases hslash : path.toList.getLast? = some '/'
  · refine ⟨fun h => ?_, fun h => absurd hslash h.1⟩
    simp only [write, hslash, or_true, if_true] at h
    generalize tree.place? _ = place? at h
    cases place? <;> cases h
  · -- Without a slash at its end the path is the one that names the file.
    have hnamed : (path.toList.reverse.dropWhile (· = '/')).reverse = path.toList := by
      rw [← List.head?_reverse] at hslash
      cases hreverse : path.toList.reverse with
      | nil => simpa using hreverse.symm
      | cons c cs =>
          have hc : c ≠ '/' := by simpa [hreverse] using hslash
          rw [List.dropWhile_cons_of_neg (by simpa using hc), ← hreverse, List.reverse_reverse]
    simp only [write, hnamed, String.ofList_toList, ite_self]
    cases hplace : tree.place? path with
    | error obstacle => simp [Except.bind]
    | ok place =>
        cases hfolder : tree.isFolder place with
        | true => simp [Except.bind, hfolder]
        | false => simpa [Except.bind, hfolder, hslash] using eq_comm

theorem exists_write_iff : (∃ next, tree.write path content = .ok next) ↔ tree.Writable path := by
  simp only [write_eq_ok_iff, Writable]
  constructor
  · rintro ⟨_, hslash, place, hplace, hfolder, -⟩
    exact ⟨hslash, place, hplace, hfolder⟩
  · rintro ⟨hslash, place, hplace, hfolder⟩
    exact ⟨_, hslash, place, hplace, hfolder, rfl⟩

/-- Nothing has changed but that the place a path leads to, which is no folder, has a file with a
content. -/
def Wrote (before after : Tree) (path : String) (content : ByteArray) : Prop :=
  ∃ place, before.place? path = .ok place ∧ before.isFolder place = false ∧
    after.folders = before.folders ∧ after.content? place = some content ∧
    ∀ other, other ≠ place → after.content? other = before.content? other

theorem wrote_of_write (h : tree.write path content = .ok next) : tree.Wrote next path content := by
  obtain ⟨-, place, hplace, hfolder, rfl⟩ := write_eq_ok_iff.mp h
  refine ⟨place, hplace, hfolder, rfl, ?_, fun other hother => ?_⟩
  · exact (lookup_put _ _ _ _).trans (if_pos rfl)
  · exact (lookup_put _ _ _ _).trans (if_neg hother)

/-- There is no way on from where no folder is. -/
theorem exists_enter_eq_error {place : Place} (h : tree.isFolder place = false) (name : String) :
    ∃ obstacle, tree.enter place name = .error obstacle := by
  unfold enter
  rw [if_neg (by simp [h])]
  split
  · exact ⟨_, rfl⟩
  · exact ⟨_, rfl⟩

/-- Where paths lead to is up to the folders. -/
theorem place?_eq_ok_of_folders (hfolders : next.folders = tree.folders) {place : Place}
    (h : tree.place? path = .ok place) : next.place? path = .ok place := by
  have hisFolder : next.isFolder = tree.isFolder := by
    funext other
    rw [isFolder, isFolder, hfolders]
  have hnames : ∀ (names : List String) (start : Place),
      names.foldlM tree.enter start = .ok place → names.foldlM next.enter start = .ok place := by
    intro names
    induction names with
    | nil => exact fun _ => id
    | cons name names ih =>
        intro start hall
        rw [List.foldlM_cons] at hall ⊢
        cases hfolder : tree.isFolder start with
        | true =>
            simp only [enter, hisFolder, hfolder, if_true] at hall ⊢
            exact ih _ hall
        | false =>
            obtain ⟨obstacle, hstuck⟩ := exists_enter_eq_error hfolder name
            rw [hstuck] at hall
            cases hall
  exact hnames _ _ h

/-- What has been written is there afterwards. -/
theorem Wrote.holds (h : tree.Wrote next path content) : next.Holds path content := by
  obtain ⟨place, hplace, hfolder, hfolders, hcontent, -⟩ := h
  refine ⟨place, place?_eq_ok_of_folders hfolders hplace, ?_, hcontent⟩
  rw [isFolder, hfolders]
  exact hfolder

end Tree

end Textile.Command

import TemplateBundler.Proofs.ScanOrder

/-!
# Disks with more entries

Where one disk has all that another one has (`Grows`), paths lead where they led. The one exception
is a path that misses something on its way, since that may be what is there now:

    d.Grows d' → d.status p ≠ .error .missing → d'.status p = d.status p        (Grows.status_eq)

A plain entry of a directory is never missing, and so only links can come to lead elsewhere
(`status_join_ne_missing`, `hasLink_of_entryFault?`).
-/

namespace TemplateBundler

namespace Disk

/-! ## Disks with more entries -/

/-- Whatever is on the one disk is on the other, in the same place. -/
structure Grows (d d' : Disk) : Prop where
  workingDirectory : d'.workingDirectory = d.workingDirectory
  kept : ∀ place node, d.find? place = some node → d'.find? place = some node

/-- What a walk comes to where nothing is missing. -/
def Settles : Except Fault Spot → Prop
  | .ok (.there _ _) => True
  | .ok (.absent _ _) => False
  | .error e => e ≠ .missing

section Grows
variable {d d' : Disk} (h : Grows d d')
include h

/-- Only where a walk misses something can another one find it. -/
theorem Grows.walk_eq (follow : Bool) (links : Nat) (here : Place) (names : List String)
    (hsettles : Settles (d.walk follow links here names)) :
    d'.walk follow links here names = d.walk follow links here names := by
  have hkept := h.kept
  fun_induction walk d follow links here names with
  | case5 | case6 | case12 => simp [Settles] at hsettles
  | case1 => rw [walk]
  | _ => rw [walk]; simp_all

theorem Grows.status_eq {p : FilePath} (hmissing : d.status p ≠ .error .missing) :
    d'.status p = d.status p := by
  have hstart : d'.start p.text = d.start p.text := by rw [start, start, h.workingDirectory]
  simp only [status, locate, bind, Except.bind] at hmissing ⊢
  cases hcheck : checkPath p.text with
  | error e => rfl
  | ok u =>
    simp only [hcheck, hstart] at hmissing ⊢
    rw [h.walk_eq]
    -- what is missing on the way is missing at the end
    cases hwalk : d.walk true linkLimit (d.start p.text) (steps p.text) with
    | error e =>
      rw [hwalk] at hmissing
      exact fun hmiss => hmissing (congrArg Except.error hmiss)
    | ok spot =>
      rw [hwalk] at hmissing
      cases spot with
      | there place node => trivial
      | absent place name => exact hmissing rfl

theorem Grows.status_ok {p : FilePath} {spot : Place × DiskNode} (hs : d.status p = .ok spot) :
    d'.status p = .ok spot := by
  have hmissing : d.status p ≠ .error .missing := by
    rw [hs]
    intro hmiss
    cases hmiss
  rw [h.status_eq hmissing, hs]

theorem Grows.holds {path : FilePath} {name : String} {node : DiskNode}
    (hold : d.Holds path name node) : d'.Holds path name node := by
  cases hold with
  | plain hs hf hne => exact .plain (h.status_ok hs) (h.kept _ _ hf) hne
  | linked hs hf ht => exact .linked (h.status_ok hs) (h.kept _ _ hf) (h.status_ok ht)

theorem Grows.hasEntry {path : FilePath} {name : String} (hentry : d.HasEntry path name) :
    d'.HasEntry path name := by
  obtain ⟨here, node, hs, hf⟩ := hentry
  exact ⟨here, node, h.status_ok hs, h.kept _ _ hf⟩

theorem Grows.leads {path : FilePath} {ns : List String} (hns : Source.Leads d path ns) :
    Source.Leads d' path ns := by
  induction ns generalizing path with
  | nil => trivial
  | cons n ns ih => exact ⟨h.holds hns.1, ih hns.2⟩

end Grows

/-! ## Entries that are not missing -/

/-- Where a path is a directory, an entry of it is looked for there. -/
theorem walk_join {d : Disk} {p : FilePath} {here : Place} {x : String}
    (hp : d.status p = .ok (here, .directory)) (hx : IsEntryName x) :
    ∃ links, d.walk true linkLimit (d.start (p.join ⟨x⟩).text) (steps (p.join ⟨x⟩).text) =
      d.walk true links here [x] := by
  obtain ⟨n, hn, hnames⟩ := reached_of_status hp
  have hclosed : endsInSeparator (p.join ⟨x⟩).text = false := by
    rw [endsInSeparator, beq_eq_false_iff_ne]
    exact FilePath.getLast?_join hx.1 hx.2
  have hway := hnames.walk_append [x] linkLimit
  rw [if_pos hn, ← FilePath.names_join hx.1 hx.2,
    start_eq_of_isAbsolute d (FilePath.isAbsolute_join hx.1 hx.2)] at hway
  refine ⟨linkLimit - n, ?_⟩
  rw [steps, hclosed, if_neg Bool.false_ne_true, List.append_nil]
  exact hway

theorem checkPath_join_ne_missing (p : FilePath) {x : String} (hx : IsEntryName x) :
    checkPath (p.join ⟨x⟩).text ≠ .error .missing := by
  have hsize : p.text.utf8ByteSize < (p.join ⟨x⟩).text.utf8ByteSize := FilePath.size_join_lt hx
  have hne : (p.join ⟨x⟩).text.isEmpty = false := by
    rw [String.isEmpty_eq_false_iff]
    rintro hempty
    rw [hempty] at hsize
    exact Nat.not_lt_zero _ hsize
  unfold checkPath
  rw [hne, if_neg Bool.false_ne_true]
  intro hmiss
  split at hmiss
  · cases hmiss
  · split at hmiss <;> cases hmiss

/-- A plain entry of a directory is there, if its name and path are not too long. -/
theorem status_join_ne_missing {d : Disk} {p : FilePath} {here : Place} {x : String}
    {node : DiskNode} (hp : d.status p = .ok (here, .directory)) (hx : IsEntryName x)
    (hf : d.find? (here ++ [x]) = some node) (hplain : ∀ target, node ≠ .link target) :
    d.status (p.join ⟨x⟩) ≠ .error .missing := by
  obtain ⟨links, hwalk⟩ := walk_join hp hx
  have hcheck := checkPath_join_ne_missing p hx
  simp only [status, locate, bind, Except.bind]
  cases hc : checkPath (p.join ⟨x⟩).text with
  | error e =>
    exact fun hmiss => hcheck (hc.trans (congrArg Except.error (Except.error.inj hmiss)))
  | ok u =>
    simp only [hwalk]
    by_cases hdot : x = "."
    · simp [walk, hdot]
    by_cases hdotdot : x = ".."
    · simp [walk, hdotdot]
    cases hlong : isLongName x with
    | true => simp [walk, hdot, hdotdot, hlong, Fault.nameTooLong, Fault.missing]
    | false =>
      cases node with
      | directory => simp [walk, hdot, hdotdot, hlong, hf]
      | file content modified => simp [walk, hdot, hdotdot, hlong, hf]
      | link target => exact absurd rfl (hplain target)

/-! ## Faults of entries -/

theorem walk_ne_notText (d : Disk) (follow : Bool) (links : Nat) (here : Place)
    (names : List String) : d.walk follow links here names ≠ .error .notText := by
  fun_induction walk d follow links here names with
  | case2 _ _ _ ih | case3 _ _ _ _ ih | case7 _ _ _ _ _ _ _ _ ih => exact ih
  | case13 _ _ _ _ _ _ _ _ _ _ _ ih => simpa using ih
  | _ =>
    intro h
    cases h

theorem status_ne_notText (d : Disk) (p : FilePath) : d.status p ≠ .error .notText := by
  have hwalk := d.walk_ne_notText true linkLimit (d.start p.text) (steps p.text)
  have hcheck : checkPath p.text ≠ .error .notText := by
    unfold checkPath
    intro h
    split at h
    · cases h
    · split at h
      · cases h
      · split at h <;> cases h
  simp only [status, locate, bind, Except.bind]
  cases hc : checkPath p.text with
  | error e =>
    exact fun h => hcheck (hc.trans (congrArg Except.error (Except.error.inj h)))
  | ok u =>
    cases hw : d.walk true linkLimit (d.start p.text) (steps p.text) with
    | error e => exact fun h => hwalk (hw.trans (congrArg Except.error (Except.error.inj h)))
    | ok spot =>
      intro h
      cases spot <;> cases h

/-- An entry of a directory is a link. -/
def HasLink (d : Disk) (path : FilePath) (name : String) : Prop :=
  ∃ here target, d.status path = .ok (here, .directory) ∧
    d.find? (here ++ [name]) = some (.link target)

/-- Only links cannot be followed. -/
theorem hasLink_of_entryFault? {d : Disk} {path : FilePath} {name : String} {e : Fault}
    (h : d.entryFault? path name = some e) : d.HasLink path name := by
  unfold entryFault? at h
  split at h
  · next here hs =>
    split at h
    · next target hf => exact ⟨here, target, hs, hf⟩
    · cases h
  · cases h

theorem entryFault?_ne_notText (d : Disk) (path : FilePath) (name : String) :
    d.entryFault? path name ≠ some .notText := by
  intro h
  unfold entryFault? at h
  split at h
  · split at h
    · split at h
      · next e he =>
        cases h
        exact d.status_ne_notText _ he
      · split at h <;> cases h
      · cases h
    · cases h
  · cases h

theorem Grows.hasLink_iff {d d' : Disk} (h : Grows d d') {path : FilePath} {name : String}
    (hentry : d.HasEntry path name) : d'.HasLink path name ↔ d.HasLink path name := by
  obtain ⟨here, node, hs, hf⟩ := hentry
  have hs' := h.status_ok hs
  have hf' := h.kept _ _ hf
  constructor
  · rintro ⟨here', target, hlink, hfind⟩
    obtain ⟨rfl, -⟩ := Prod.mk.inj (Except.ok.inj (hs'.symm.trans hlink))
    exact ⟨here, target, hs, hf.trans (hf'.symm.trans hfind)⟩
  · rintro ⟨here', target, hlink, hfind⟩
    exact ⟨here', target, h.status_ok hlink, h.kept _ _ hfind⟩

end Disk

end TemplateBundler

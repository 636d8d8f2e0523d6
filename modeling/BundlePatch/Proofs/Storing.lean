import BundlePatch.Proofs.Candidates
import BundlePatch.Proofs.Copying

/-!
# Proofs/Storing — what making a backup **adds**

Making a backup takes nothing away.  The directories that lead to its place come in addition
(`FileSystem.AddsDirectories`), and then the backup itself, at the path where the search for a free
name stops (`Backup.Opened`).  If all goes well, it has the bytes of the target (`Backup.Stored`);
if the system breaks the copy off, **it stays there with the first of them** (`Backup.CutShort`).
`Backup.create_spec` sums up all outcomes.
-/

namespace BundlePatch

/-! ## Directories on the way -/

/-- A path that is **passed on the way** to another, or is that path. -/
def Path.OnWayTo (q p : Path) : Prop := q.root = p.root ∧ q.parts <+: p.parts

namespace Path.OnWayTo

variable {p q : Path}

theorem refl (p : Path) : p.OnWayTo p := ⟨rfl, List.prefix_rfl⟩

theorem of_parent (h : q.OnWayTo p.parent) : q.OnWayTo p :=
  ⟨h.1, h.2.trans (List.dropLast_prefix p.parts)⟩

end Path.OnWayTo

namespace FileSystem

variable {fs fs' fs'' : FileSystem} {p dir : Path} {loc place : Location} {why : Refusal}
  {e : FileError}

/-- All that comes in addition are **directories on the way** to one. -/
structure AddsDirectories (dir : Path) (fs fs' : FileSystem) : Prop where
  grows : fs.Grows fs'
  new : ∀ loc entry, fs.get? loc = none → fs'.get? loc = some entry →
    entry = .directory ∧ ∃ q : Path, q.OnWayTo dir ∧ fs'.follow q = .ok loc

namespace AddsDirectories

theorem refl (dir : Path) (fs : FileSystem) : AddsDirectories dir fs fs where
  grows := .refl fs
  new loc entry hnone hsome := by
    rw [hnone] at hsome
    cases hsome

theorem of_parent (h : AddsDirectories dir.parent fs fs') : AddsDirectories dir fs fs' where
  grows := h.grows
  new loc entry hnone hsome := by
    obtain ⟨hentry, q, hq, hfollow⟩ := h.new loc entry hnone hsome
    exact ⟨hentry, q, hq.of_parent, hfollow⟩

/-- The directory itself is the last on the way. -/
theorem makeDirectory (h : AddsDirectories dir fs fs') (hmake : fs'.makeDirectory dir = .ok fs'') :
    AddsDirectories dir fs fs'' := by
  obtain ⟨place, hplace, hfree, rfl⟩ := makeDirectory_eq_ok_iff.1 hmake
  have hput := Grows.put hfree .directory
  refine ⟨h.grows.trans hput, fun loc entry hnone hsome => ?_⟩
  rw [get?_put (ne_nil_of_eq_none hfree)] at hsome
  by_cases hloc : loc = place
  · rw [if_pos hloc] at hsome
    exact ⟨(Option.some.inj hsome).symm, dir, .refl dir, hloc ▸ hput.follow_eq hplace⟩
  · rw [if_neg hloc] at hsome
    obtain ⟨hentry, q, hq, hfollow⟩ := h.new loc entry hnone hsome
    exact ⟨hentry, q, hq, hput.follow_eq hfollow⟩

end AddsDirectories

theorem makeDirectories_adds (fs : FileSystem) (dir : Path) :
    AddsDirectories dir fs (fs.makeDirectories dir).1 := by
  fun_induction makeDirectories fs dir with
  | case1 dir hnul => exact .refl dir fs
  | case2 dir hnul fs' hmake => exact (AddsDirectories.refl dir fs).makeDirectory hmake
  | case3 dir hnul hmissing htop => exact .refl dir fs
  | case4 dir hnul hmissing htop fs' why hparent ih
  | case6 dir hnul hmissing htop fs' hparent hagain ih
  | case7 dir hnul hmissing htop fs' hparent why hwhy hagain ih =>
    rw [hparent] at ih
    exact ih.of_parent
  | case5 dir hnul hmissing htop fs' hparent fs'' hmake ih =>
    rw [hparent] at ih
    exact ih.of_parent.makeDirectory hmake
  | case8 dir hnul why hwhy hmake => exact .refl dir fs

theorem stat_of_makeDirectory (h : fs.makeDirectory p = .ok fs') :
    ∃ loc, fs'.stat p = .ok (loc, .directory) := by
  obtain ⟨place, hplace, hfree, rfl⟩ := makeDirectory_eq_ok_iff.1 h
  refine ⟨place, stat_eq_ok_iff.2 ⟨(Grows.put hfree .directory).follow_eq hplace, ?_⟩⟩
  rw [get?_put (ne_nil_of_eq_none hfree), if_pos rfl]

theorem settle_eq_ok_iff : fs.settle p why = .ok () ↔ fs.isDirectory p = true := by
  rw [settle]
  split
  next h => simp [h]
  next h => simp [h]

/-- Where the directories were made, **there is one**. -/
theorem stat_of_makeDirectories : (fs.makeDirectories dir).2 = .ok () →
    ∃ loc, (fs.makeDirectories dir).1.stat dir = .ok (loc, .directory) := by
  fun_cases makeDirectories fs dir with
  | case1 | case3 | case4 | case6 => exact fun h => nomatch h
  | case2 hnul fs' hmake => exact fun _ => stat_of_makeDirectory hmake
  | case5 hnul hmissing htop fs' hparent fs'' hmake => exact fun _ => stat_of_makeDirectory hmake
  | case7 | case8 => exact fun h => (isDirectory_iff.1 (settle_eq_ok_iff.1 h)).2

theorem settle_error (h : fs.settle p why = .error e) : e = .refused why p.toString := by
  rw [settle] at h
  split at h
  · cases h
  · exact (Except.error.inj h).symm

/-- Making directories is a misuse only of a path **with a NUL**. -/
theorem hasNul_of_makeDirectories :
    (fs.makeDirectories dir).2 = .error .embeddedNul → dir.hasNul = true := by
  fun_induction makeDirectories fs dir with
  | case1 dir hnul => exact fun _ => hnul
  | case2 | case3 | case5 | case6 => exact fun h => nomatch h
  | case4 dir hnul hmissing htop fs' why hparent ih =>
    intro h
    rw [hparent] at ih
    obtain ⟨part, hpart, hmem⟩ := Path.hasNul_iff.1 (ih h)
    exact Path.hasNul_iff.2 ⟨part, List.dropLast_subset dir.parts hpart, hmem⟩
  | case7 | case8 => exact fun h => nomatch settle_error h

end FileSystem

namespace Backup

open FileSystem

variable {fs fs' mid whole : FileSystem} {target dir backup : Path} {now : Instant}
  {broken? : Option BrokenCopy} {loc place spot : Location} {bytes kept : List UInt8}
  {e : FileError} {why : Fault}

/-! ## The backup -/

/-- A backup **has been opened**: `fs'` is `fs` with the backup in addition, where `kept` is what it
has of the bytes of the target, and with directories on the way to it. -/
structure Opened (target dir backup : Path) (spot place : Location) (bytes kept : List UInt8)
    (fs fs' : FileSystem) : Prop where
  grows : fs.Grows fs'
  free : fs.get? place = none
  stat_target : fs'.stat target = .ok (spot, .file bytes)
  stat_backup : fs'.stat backup = .ok (place, .file kept)
  ne : place ≠ spot
  dropLast_ne : place.dropLast ≠ spot
  hasNul_target : target.hasNul = false
  hasNul_backup : backup.hasNul = false
  baseText_ne : backup.baseText ≠ ".."
  new : ∀ loc entry, fs.get? loc = none → fs'.get? loc = some entry →
    loc = place ∨ entry = .directory ∧ ∃ q : Path, q.OnWayTo dir ∧ fs'.follow q = .ok loc

/-- A backup **has just been made**: it has been opened, and has all bytes of the target. -/
abbrev Stored (target dir backup : Path) (spot place : Location) (bytes : List UInt8)
    (fs fs' : FileSystem) : Prop := Opened target dir backup spot place bytes bytes fs fs'

namespace Opened

variable (h : Opened target dir backup spot place bytes kept fs fs')
include h

theorem follow_target : fs'.follow target = .ok spot := (stat_eq_ok_iff.1 h.stat_target).1

theorem get?_spot_ne : fs'.get? spot ≠ some .directory := get?_ne_of_stat h.stat_target

/-- The target **stood there** before. -/
theorem get?_spot : fs.get? spot = some (.file bytes) := by
  have hnow := (stat_eq_ok_iff.1 h.stat_target).2
  cases hget : fs.get? spot with
  | some entry => exact (h.grows.get?_eq spot entry hget).symm.trans hnow
  | none =>
    obtain hspot | ⟨hentry, -⟩ := h.new spot _ hget hnow
    · exact absurd hspot.symm h.ne
    · cases hentry

/-- There was **nothing at its path** before. -/
theorem exists?_eq_false : fs.exists? backup = .ok false := by
  obtain ⟨hfollow, -⟩ := stat_eq_ok_iff.1 h.stat_backup
  obtain ⟨there, hthere⟩ := @exists?_of_follow _ fs _ _ hfollow
  cases there with
  | false => exact hthere
  | true =>
    obtain ⟨-, loc, entry, hstat⟩ := exists?_eq_true_iff.1 hthere
    have hloc := (stat_eq_ok_iff.1 (h.grows.stat_eq hstat)).1
    obtain rfl := Except.ok.inj (hfollow.symm.trans hloc)
    have hget := (stat_eq_ok_iff.1 hstat).2
    rw [h.free] at hget
    cases hget

end Opened

/-- In a directory that exists, the target is copied **to a free name**.  However many bytes of it
arrive there, nothing else comes in addition. -/
theorem opened_of_copy (hmid : AddsDirectories dir fs mid)
    (hdir : mid.stat dir = .ok (loc, .directory)) (hpath : nextPath mid dir target now = .ok backup)
    (hcopy : mid.copy target backup = .ok fs') (hstat : mid.stat target = .ok (spot, .file bytes))
    (hplace : mid.follow (mid.copyTarget target backup).1.path = .ok place) (hne : spot ≠ place) :
    ∃ k, backup = candidate dir target now k ∧ StopsAt mid dir target now k ∧
      ∀ kept, Opened target dir backup spot place bytes kept fs (mid.put place (.file kept)) := by
  obtain ⟨hfollow, -⟩ := stat_eq_ok_iff.1 hdir
  obtain ⟨k, rfl, hk, hnone⟩ := exists_of_nextPath hfollow hpath
  obtain ⟨htarget, hbackup, -⟩ := copy_eq_ok_iff.1 hcopy
  rw [copyTarget_path (isDirectory_eq_false_of_exists? hnone)] at hplace
  obtain rfl := follow_child hfollow (name_ne_up target now k) hplace
  have hfree := get?_eq_none_of_exists? hnone hbackup hplace
  refine ⟨k, rfl, hk, fun kept => ?_⟩
  have hput := Grows.put hfree (.file kept)
  have hget : ∀ loc', (mid.put (loc ++ [name target now k]) (.file kept)).get? loc' = _ :=
    fun loc' => get?_put (ne_nil_of_eq_none hfree)
  constructor
  case grows => exact hmid.grows.trans hput
  case free => exact hmid.grows.get?_eq_none hfree
  case stat_target => exact hput.stat_eq hstat
  case stat_backup =>
    exact stat_eq_ok_iff.2 ⟨hput.follow_eq hplace, by rw [hget, if_pos rfl]⟩
  case ne => exact hne.symm
  case dropLast_ne =>
    rw [List.dropLast_concat]
    rintro rfl
    exact get?_ne_of_stat hstat (stat_eq_ok_iff.1 hdir).2
  case hasNul_target => exact htarget
  case hasNul_backup => exact hbackup
  case baseText_ne =>
    rw [candidate, Path.baseText_child]
    exact name_ne_up target now k
  case new =>
    intro loc' entry hnone hsome
    by_cases hplace' : loc' = loc ++ [name target now k]
    · exact .inl hplace'
    · rw [hget, if_neg hplace'] at hsome
      obtain ⟨hentry, q, hq, hfollow'⟩ := hmid.new loc' entry hnone hsome
      exact .inr ⟨hentry, q, hq, hput.follow_eq hfollow'⟩

/-! ## The ways a backup can end -/

/-- Making a backup **was broken off**: where the next backup was to stand, there are the first
bytes of the target. -/
def CutShort (target dir : Path) (now : Instant) (b : BrokenCopy) (fs fs' : FileSystem) : Prop :=
  ∃ n k spot place bytes, b.bytes? = some n ∧
    StopsAt (fs.makeDirectories dir).1 dir target now k ∧
    fs.exists? (candidate dir target now k) = .ok false ∧ fs.get? spot = some (.file bytes) ∧
    Opened target dir (candidate dir target now k) spot place bytes (bytes.take n) fs fs'

/-- The ways making a backup can **end**, each with the files that it leaves. -/
inductive CreateEnds (fs : FileSystem) (target dir : Path) (now : Instant)
    (broken? : Option BrokenCopy) : FileSystem → Except Fault Path → Prop
  /-- The backup is made. -/
  | stored {fs' : FileSystem} {k : Nat} {spot place : Location} {bytes : List UInt8}
      (hk : StopsAt (fs.makeDirectories dir).1 dir target now k)
      (hstored : Stored target dir (candidate dir target now k) spot place bytes fs fs') :
      CreateEnds fs target dir now broken? fs' (.ok (candidate dir target now k))
  /-- It fails before there is one. -/
  | refused {fs' : FileSystem} {e : FileError} (hadds : AddsDirectories dir fs fs')
      (he : e.isEnvironmental = true) :
      CreateEnds fs target dir now broken? fs' (.error (.backupFailed target e))
  /-- A path has a NUL. -/
  | misused {fs' : FileSystem} (hadds : AddsDirectories dir fs fs')
      (hnul : target.hasNul = true ∨ dir.hasNul = true) :
      CreateEnds fs target dir now broken? fs' (.error (.disk .embeddedNul))
  /-- It is broken off. -/
  | cut {fs' : FileSystem} {b : BrokenCopy} (hbroken : broken? = some b)
      (hcut : CutShort target dir now b fs fs') :
      CreateEnds fs target dir now broken? fs'
        (.error (.backupFailed target (.brokenOff b.message)))

theorem CreateEnds.of_error (hadds : AddsDirectories dir fs fs')
    (hnul : e = .embeddedNul → target.hasNul = true ∨ dir.hasNul = true) :
    CreateEnds fs target dir now broken? fs' (.error (faultOf target e)) := by
  cases e with
  | refused | sameFile | brokenOff => exact .refused hadds rfl
  | embeddedNul => exact .misused hadds (hnul rfl)

/-- In a directory that exists, the ways are those of **the search and of the copy**. -/
theorem store_ends (hmade : fs.makeDirectories dir = (mid, .ok ())) :
    CreateEnds fs target dir now broken? (store mid target dir now broken?).1
      ((store mid target dir now broken?).2.mapError (faultOf target)) := by
  have hmid : (fs.makeDirectories dir).1 = mid := congrArg Prod.fst hmade
  have hadds : AddsDirectories dir fs mid := hmid ▸ makeDirectories_adds fs dir
  obtain ⟨loc, hdir⟩ := stat_of_makeDirectories (congrArg Prod.snd hmade)
  rw [hmid] at hdir
  have hfollow := (stat_eq_ok_iff.1 hdir).1
  rw [store]
  cases hpath : nextPath mid dir target now with
  | error e =>
    refine .of_error hadds fun he => ?_
    cases he ▸ isEnvironmental_of_nextPath hfollow hpath
  | ok backup =>
    dsimp only
    have hends := copyUnless_ends mid broken? target backup
    generalize mid.copyUnless broken? target backup = ended at hends ⊢
    obtain ⟨fs', copied⟩ := ended
    cases hends with
    | refused hcopy =>
      refine .of_error hadds fun he => ?_
      obtain ⟨k, rfl, -⟩ := exists_of_nextPath hfollow hpath
      exact (hasNul_of_copy (he ▸ hcopy)).elim .inl hasNul_of_candidate
    | unopened => exact .of_error hadds fun he => (by cases he)
    | whole hwhole hcopy =>
      obtain ⟨spot, bytes, place, hstat, hplace, -, hne, rfl⟩ := exists_put_of_copy hcopy
      obtain ⟨k, rfl, hk, hopened⟩ := opened_of_copy hadds hdir hpath hcopy hstat hplace hne
      exact .stored (hmid ▸ hk) (hopened bytes)
    | @cut b n spot place bytes hbroken hbytes hcopy hstat hplace _ hne =>
      obtain ⟨k, rfl, hk, hopened⟩ := opened_of_copy hadds hdir hpath hcopy hstat hplace hne
      have hkept := hopened (bytes.take n)
      exact .cut hbroken ⟨n, k, spot, place, bytes, hbytes, hmid ▸ hk, hkept.exists?_eq_false,
        hkept.get?_spot, hkept⟩

theorem create_ends (fs : FileSystem) (target dir : Path) (now : Instant)
    (broken? : Option BrokenCopy) : CreateEnds fs target dir now broken?
      (create fs target dir now broken?).1 (create fs target dir now broken?).2 := by
  rw [create]
  split
  next fs' e hdirs =>
    have hadds := makeDirectories_adds fs dir
    have hmisused := @hasNul_of_makeDirectories fs dir
    rw [hdirs] at hadds hmisused
    exact .of_error hadds fun he => .inr (hmisused (congrArg _ he))
  next mid hdirs => exact store_ends hdirs

/-- What a backup that **succeeds** leaves. -/
theorem stored_of_create (h : create fs target dir now broken? = (fs', .ok backup)) :
    ∃ k spot place bytes, backup = candidate dir target now k ∧
      StopsAt (fs.makeDirectories dir).1 dir target now k ∧
      Stored target dir backup spot place bytes fs fs' := by
  have hends := create_ends fs target dir now broken?
  rw [h] at hends
  cases hends with
  | stored hk hstored => exact ⟨_, _, _, _, rfl, hk, hstored⟩

/-- What a backup that **fails** leaves. -/
theorem adds_of_create (h : create fs target dir now = (fs', .error why)) :
    AddsDirectories dir fs fs' := by
  have hends := create_ends fs target dir now none
  rw [h] at hends
  cases hends with
  | refused hadds | misused hadds => exact hadds
  | cut hbroken => cases hbroken

/-! ## Every outcome -/

/-- **Making a backup never writes over anything, and always ends.**  The search stops, at one
number, and what it answers is the path of that number.  A backup that succeeds stands there, where
nothing was before, and has the bytes of the target.  One that fails says so, and has made
directories at most, **unless the system has broken the copy off**: then the backup has been opened,
and is left there with the first bytes of the target. -/
theorem create_spec (fs : FileSystem) (target dir : Path) (now : Instant)
    (broken? : Option BrokenCopy) :
    (∃! k, StopsAt (fs.makeDirectories dir).1 dir target now k) ∧
    (∀ k, (fs.makeDirectories dir).2 = .ok () →
      StopsAt (fs.makeDirectories dir).1 dir target now k →
      nextPath (fs.makeDirectories dir).1 dir target now = do
        let _ ← (fs.makeDirectories dir).1.exists? (candidate dir target now k)
        return candidate dir target now k) ∧
    (∀ fs' backup, create fs target dir now broken? = (fs', .ok backup) → ∃ k spot place bytes,
      backup = candidate dir target now k ∧
      StopsAt (fs.makeDirectories dir).1 dir target now k ∧
      fs.exists? backup = .ok false ∧ fs.get? spot = some (.file bytes) ∧
      Stored target dir backup spot place bytes fs fs') ∧
    ∀ fs' why, create fs target dir now broken? = (fs', .error why) →
      (AddsDirectories dir fs fs' ∨ ∃ b, broken? = some b ∧
        why = .backupFailed target (.brokenOff b.message) ∧ CutShort target dir now b fs fs') ∧
      ((∃ e, e.isEnvironmental = true ∧ why = .backupFailed target e) ∧ why.kind? = some .storage ∨
        why = .disk .embeddedNul ∧ (target.hasNul = true ∨ dir.hasNul = true)) := by
  refine ⟨existsUnique_stopsAt _ dir target now, fun k hmade hk => ?_, fun fs' backup h => ?_,
    fun fs' why h => ?_⟩
  · obtain ⟨loc, hdir⟩ := stat_of_makeDirectories hmade
    exact nextPath_eq (stat_eq_ok_iff.1 hdir).1 hk
  · obtain ⟨k, spot, place, bytes, hbackup, hk, hstored⟩ := stored_of_create h
    exact ⟨k, spot, place, bytes, hbackup, hk, hstored.exists?_eq_false, hstored.get?_spot, hstored⟩
  · have hends := create_ends fs target dir now broken?
    rw [h] at hends
    cases hends with
    | refused hadds he => exact ⟨.inl hadds, .inl ⟨⟨_, he, rfl⟩, rfl⟩⟩
    | misused hadds hnul => exact ⟨.inl hadds, .inr ⟨rfl, hnul⟩⟩
    | cut hbroken hcut => exact ⟨.inr ⟨_, hbroken, rfl, hcut⟩, .inl ⟨⟨_, rfl, rfl⟩, rfl⟩⟩

def sampleInstant : Instant := ⟨2024, 5, 6, 7, 8, 9, 10⟩

/-- A directory of backups **with a gap**: the numbers 0, 1 and 3 are taken, one of them by a
directory. -/
def sampleCrowd : FileSystem where
  entries := [(["cli.js"], .file [0x61, 0x62]), (["backups"], .directory),
    (["backups", "cli-2024-05-06T07-08-09-000Z.js"], .file []),
    (["backups", "cli-2024-05-06T07-08-09-000Z-1.js"], .directory),
    (["backups", "cli-2024-05-06T07-08-09-000Z-3.js"], .file [])]

def samplePlace : Path := { parts := ["backups", "cli-2024-05-06T07-08-09-000Z-2.js"] }

/-- A disk that is full **after one byte**. -/
def sampleFull : BrokenCopy where
  bytes? := some 1
  message := "[Errno 28] No space left on device"

/-- The next backup **fills the gap**; without a target there is none, and nothing is added but
directories; on a full disk a part of it stays there. -/
theorem create_spec_sample :
    (create sampleCrowd { parts := ["cli.js"] } { parts := ["backups"] } sampleInstant).1.read
      samplePlace = .ok [0x61, 0x62] ∧
    AddsDirectories { parts := ["backups"] } sampleCrowd
      (create sampleCrowd { parts := ["gone.js"] } { parts := ["backups"] } sampleInstant).1 ∧
    CutShort { parts := ["cli.js"] } { parts := ["backups"] } sampleInstant sampleFull sampleCrowd
      (create sampleCrowd { parts := ["cli.js"] } { parts := ["backups"] } sampleInstant
        sampleFull).1 := by
  obtain ⟨-, -, hmade, -⟩ :=
    create_spec sampleCrowd { parts := ["cli.js"] } { parts := ["backups"] } sampleInstant none
  obtain ⟨-, -, -, hfailed⟩ :=
    create_spec sampleCrowd { parts := ["gone.js"] } { parts := ["backups"] } sampleInstant none
  obtain ⟨-, -, -, hbroken⟩ :=
    create_spec sampleCrowd { parts := ["cli.js"] } { parts := ["backups"] } sampleInstant
      (some sampleFull)
  have hback : (create sampleCrowd { parts := ["cli.js"] } { parts := ["backups"] }
      sampleInstant).2 = .ok samplePlace := by
    decide +kernel
  have hgone : (create sampleCrowd { parts := ["gone.js"] } { parts := ["backups"] }
      sampleInstant).2 =
      .error (.backupFailed { parts := ["gone.js"] } (.refused .missing "gone.js")) := by
    decide +kernel
  have hfull : (create sampleCrowd { parts := ["cli.js"] } { parts := ["backups"] } sampleInstant
      sampleFull).2 =
      .error (.backupFailed { parts := ["cli.js"] } (.brokenOff sampleFull.message)) := by
    decide +kernel
  have htarget : (create sampleCrowd { parts := ["cli.js"] } { parts := ["backups"] }
      sampleInstant).1.stat { parts := ["cli.js"] } = .ok (["cli.js"], .file [0x61, 0x62]) := by
    decide +kernel
  obtain ⟨k, spot, place, bytes, -, -, -, -, hstored⟩ := hmade _ _ (Prod.ext rfl hback)
  obtain ⟨-, hbytes⟩ := Prod.mk.inj (Except.ok.inj (hstored.stat_target.symm.trans htarget))
  obtain rfl := Entry.file.inj hbytes
  refine ⟨read_eq_ok_iff.2 ⟨place, hstored.stat_backup⟩, ?_, ?_⟩
  · obtain hadds | ⟨b, hnone, -⟩ := (hfailed _ _ (Prod.ext rfl hgone)).1
    · exact hadds
    · cases hnone
  · obtain hadds | ⟨b, hb, -, hcut⟩ := (hbroken _ _ (Prod.ext rfl hfull)).1
    · have hnew := hadds.new ["backups", "cli-2024-05-06T07-08-09-000Z-2.js"] (.file [0x61])
        (by decide +kernel) (by decide +kernel)
      cases hnew.1
    · exact Option.some.inj hb ▸ hcut

/-- A failure to make a backup **may leave a file**. -/
theorem not_create_leaves_no_file : ¬ ∀ (fs : FileSystem) (target dir : Path) (now : Instant)
    (broken? : Option BrokenCopy) (fs' : FileSystem) (e : FileError),
    create fs target dir now broken? = (fs', .error (.backupFailed target e)) →
      ∀ loc bytes, fs'.get? loc = some (.file bytes) → fs.get? loc = some (.file bytes) := by
  intro h
  have hleft := h sampleCrowd { parts := ["cli.js"] } { parts := ["backups"] } sampleInstant
    sampleFull _ (.brokenOff sampleFull.message) (Prod.ext rfl (by decide +kernel))
    ["backups", "cli-2024-05-06T07-08-09-000Z-2.js"] [0x61] (by decide +kernel)
  have hfree : sampleCrowd.get? ["backups", "cli-2024-05-06T07-08-09-000Z-2.js"] = none := by
    decide +kernel
  cases hfree.symm.trans hleft

end Backup

end BundlePatch

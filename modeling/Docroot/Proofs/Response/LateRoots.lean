import Docroot.Proofs.Resolution.LateRoots
import Docroot.Proofs.Response.Interchange

/-!
# Answers from directories that are made later

A configuration that was built before some of its directories were made answers requests as one
that is built afterwards, if no link leads to any of these directories.  A directory that a link
leads to is as good as not configured: requests are answered as if the options did not mention it.

## Main results

* `sameAnswersOn_of_growsTo` — **what a configuration built before answers afterwards.**
-/

namespace Docroot

open Lookup

variable {disk disk' : Disk}

/-- **A configuration that was built before answers afterwards** as one that is built then from
the options without the rerouted directories, where looking into these is not stopped, and as one
that is built then from the options themselves if none of the directories is rerouted. -/
theorem sameAnswersOn_of_growsTo (hdisk : disk.Steady) (hdisk' : disk'.Steady)
    (hgrows : disk.GrowsTo disk') {options : Options} {config : Config} {j : Journal}
    (habsolute : ∀ l, options.Mentions l → l.IsAbsolute)
    (hconfig : (configure disk options j).1 = .ok config) :
    ((∀ l, options.Mentions l → l.isRerouted disk disk' = true → l.Tells disk') →
      ∃ remaining,
        (∀ j', (configure disk' (options.without (Location.isRerouted disk disk')) j').1
          = .ok remaining)
        ∧ config.SameAnswersOn disk' remaining)
      ∧ ((∀ l, options.Mentions l → l.isRerouted disk disk' = false) →
        ∃ later, (∀ j', (configure disk' options j').1 = .ok later)
          ∧ config.SameAnswersOn disk' later) := by
  have hremaining : (∀ l, options.Mentions l → l.isRerouted disk disk' = true → l.Tells disk') →
      ∃ remaining,
        (∀ j', (configure disk' (options.without (Location.isRerouted disk disk')) j').1
          = .ok remaining)
        ∧ config.SameAnswersOn disk' remaining := by
    intro htells
    refine ⟨_, configure_without hdisk hdisk' hgrows hconfig, ?_⟩
    refine Config.sameAnswersOn_of_found fun now boundary method request path r j₁ j₂ k k' => ?_
    rw [findResource_of_growsTo hdisk hdisk' hgrows hconfig habsolute htells path j₁ j₂]
    have hbuilt := (configure_eq_ok hdisk hconfig).1
    rw [@answerFound_congr config ((options.without (Location.isRerouted disk disk')).configOn disk')
      (by rw [hbuilt, Options.policy_configOn, Options.policy_configOn, Options.given_without])
      (by rw [hbuilt, Options.mediaTypes_configOn, Options.mediaTypes_configOn,
        Options.given_without])]
    exact answerFound_fst_of_steady hdisk' _ _ _ _ _ _ r k k'
  refine ⟨hremaining, fun hstays => ?_⟩
  -- where nothing is rerouted, nothing is taken from the options
  rw [Options.without_eq_self hstays] at hremaining
  refine hremaining fun l hl hrerouted => ?_
  rw [hstays l hl] at hrerouted
  cases hrerouted

/-! A directory that is made later, and a link to the directory above it. -/

/-- A disk with a directory `/s` and a link `/t` to it. -/
def earlyDisk : Disk :=
  ⟨(FileSystem.empty.set [['s']] (.directory 0)).set [['t']] (.link ['s']), fun _ _ => none⟩

/-- The disk after a directory with a file was made in `/s`. -/
def lateDisk : Disk :=
  ⟨(earlyDisk.files.set [['s'], ['w']] (.directory 0)).set [['s'], ['w'], ['f']] (.file [1] 5),
    fun _ _ => none⟩

/-- The options that serve a directory. -/
def servingDirectory (path : Text) : Options := Doubled.optionsOf (.ofDirectory path)

/-- The path of the directory that is made. -/
def ownPath : Text := ['/', 's', '/', 'w']

/-- A path that leads to it through the link. -/
def linkedPath : Text := ['/', 't', '/', 'w']

/-- What a request for the file in the directory is answered on the later disk, if the
configuration was built on some disk. -/
def statusOnLateDisk (built : Disk) (path : Text) : Rat :=
  (handle ⟨lateDisk, 0, ""⟩ ((servingDirectory path).configOn built) (getRequest ['f']) .fresh
    ⟨[], []⟩).1.response.status

theorem growsTo_lateDisk : earlyDisk.GrowsTo lateDisk :=
  ⟨(FileSystem.growsTo_set (by decide) _).trans (FileSystem.growsTo_set (by decide) _), rfl⟩

theorem eq_of_mentions_servingDirectory {path : Text} {l : Location}
    (h : (servingDirectory path).Mentions l) : l = .ofDirectory path := by
  rcases h with hl | ⟨r, hr, allowed, hallowed, -⟩
  · exact List.mem_singleton.mp hl
  · obtain rfl := List.mem_singleton.mp hr
    cases hallowed

/-- By its own path the directory is served, whenever the configuration was built. -/
theorem sameAnswersOn_lateDisk :
    (configure earlyDisk (servingDirectory ownPath) ⟨[], []⟩).1
        = .ok ((servingDirectory ownPath).configOn earlyDisk)
      ∧ (∃ later, (∀ j, (configure lateDisk (servingDirectory ownPath) j).1 = .ok later)
        ∧ ((servingDirectory ownPath).configOn earlyDisk).SameAnswersOn lateDisk later)
      ∧ statusOnLateDisk earlyDisk ownPath = 200 := by
  have hconfig : (configure earlyDisk (servingDirectory ownPath) ⟨[], []⟩).1
      = .ok ((servingDirectory ownPath).configOn earlyDisk) := by decide +kernel
  refine ⟨hconfig, ?_, by decide +kernel⟩
  refine (sameAnswersOn_of_growsTo (fun _ _ _ => rfl) (fun _ _ _ => rfl) growsTo_lateDisk
    (fun l hl => ?_) hconfig).2 fun l hl => ?_
  · rw [eq_of_mentions_servingDirectory hl]
    exact ⟨_, rfl⟩
  · rw [eq_of_mentions_servingDirectory hl]
    decide +kernel

/-- By a path through the link it is served only if the configuration was built afterwards. -/
theorem not_sameAnswersOn_rerouted :
    (examine earlyDisk (.ofDirectory linkedPath)).outcome.finding
        = .absent (.ofDirectory linkedPath)
      ∧ (configure earlyDisk (servingDirectory linkedPath) ⟨[], []⟩).1
        = .ok ((servingDirectory linkedPath).configOn earlyDisk)
      ∧ earlyDisk.GrowsTo lateDisk
      ∧ (configure lateDisk (servingDirectory linkedPath) ⟨[], []⟩).1
        = .ok ((servingDirectory linkedPath).configOn lateDisk)
      ∧ statusOnLateDisk earlyDisk linkedPath = 404
      ∧ statusOnLateDisk lateDisk linkedPath = 200
      ∧ ¬ ((servingDirectory linkedPath).configOn earlyDisk).SameAnswersOn lateDisk
          ((servingDirectory linkedPath).configOn lateDisk) := by
  have hearly : statusOnLateDisk earlyDisk linkedPath = 404 := by decide +kernel
  have hlate : statusOnLateDisk lateDisk linkedPath = 200 := by decide +kernel
  refine ⟨by decide +kernel, by decide +kernel, growsTo_lateDisk, by decide +kernel, hearly, hlate,
    fun hsame => ?_⟩
  have hstatus : statusOnLateDisk earlyDisk linkedPath = statusOnLateDisk lateDisk linkedPath :=
    congrArg (fun handled => handled.response.status) (hsame ..)
  rw [hearly, hlate] at hstatus
  cases hstatus

end Docroot

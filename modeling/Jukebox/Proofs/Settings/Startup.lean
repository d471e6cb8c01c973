import Jukebox.CommandLine.Launch
import Jukebox.Timers
import Mathlib

/-!
# Settings at start-up, decided

Which file is consulted, what its settings are overlaid with, and when the player starts, for every
command line, environment and file system (`startup_decided`). The settings of a file pass the check
before anything is overlaid, and the outcome is checked again. Of the second check only one
rejection is left, that of a blank endpoint on the command line: the status has no check, and
without a player the check of its command falls away (`Overrides.Changes.check_eq`).

So both timers have a period wherever the program runs, and none of them is set to tick without end.
-/

namespace Jukebox

/-! ## The file that is consulted -/

namespace Locations

/-- The environment names this file: its variable holds the path, a text that is not blank. -/
structure Names (l : Locations) (path : Path) : Prop where
  set : l.settingsFile = some path.bytes
  text : ∃ text, Text.ofBytes? path.bytes = some text ∧ Text.allBlank text = false

theorem named?_eq_some_iff {l : Locations} {path : Path} :
    l.named? = some path ↔ l.Names path := by
  rw [named?, Option.bind_eq_some_iff]
  constructor
  · rintro ⟨bytes, hset, h⟩
    obtain ⟨text, htext, h⟩ := Option.bind_eq_some_iff.1 h
    split at h
    · cases h
    · rename_i hblank
      cases h
      exact ⟨hset, text, htext, Bool.eq_false_iff.2 hblank⟩
  · rintro ⟨hset, text, htext, hblank⟩
    refine ⟨path.bytes, hset, Option.bind_eq_some_iff.2 ⟨text, htext, ?_⟩⟩
    rw [if_neg (Bool.eq_false_iff.1 hblank)]

theorem named?_eq_none_iff {l : Locations} : l.named? = none ↔ ∀ path, ¬ l.Names path := by
  simp only [← named?_eq_some_iff, Option.eq_none_iff_forall_ne_some, ne_eq]

/-- The user's file with settings, in the directory for them. Between the two stands one slash. -/
def userFile (directory : Path) : Path :=
  if directory.bytes = [] ∨ directory.bytes.getLast? = some 0x2f then
    ⟨directory.bytes ++ Text.bytesOf "songq/config.toml"⟩
  else ⟨directory.bytes ++ Text.bytesOf "/songq/config.toml"⟩

/-- The file with settings for all users. -/
def systemFile : Path := .ofText "/etc/songq/config.toml"

/-- Below a directory that does not end in a slash a name stands behind one. -/
theorem join_config (front : List UInt8) :
    (⟨front ++ Text.bytesOf "songq"⟩ : Path).join "config.toml" =
      ⟨front ++ Text.bytesOf "songq/config.toml"⟩ := by
  have hsongq : Text.bytesOf "songq" = [0x73, 0x6f, 0x6e, 0x67, 0x71] := by decide
  have hnext : Text.bytesOf "songq/config.toml" =
      [0x73, 0x6f, 0x6e, 0x67, 0x71] ++ 0x2f :: Text.bytesOf "config.toml" := by decide
  rw [Path.join, hsongq, hnext, if_neg (by simp [Path.slash]), List.append_assoc]
  rfl

theorem join_join_eq (directory : Path) :
    (directory.join "songq").join "config.toml" = userFile directory := by
  have hslash : Text.bytesOf "/songq/config.toml" =
      0x2f :: Text.bytesOf "songq/config.toml" := by decide
  rw [userFile, hslash]
  by_cases h : directory.bytes = [] ∨ directory.bytes.getLast? = some 0x2f
  · have hjoin : directory.join "songq" = ⟨directory.bytes ++ Text.bytesOf "songq"⟩ := if_pos h
    rw [hjoin, join_config, if_pos h]
  · have hjoin : directory.join "songq" =
        ⟨(directory.bytes ++ [0x2f]) ++ Text.bytesOf "songq"⟩ := by
      rw [List.append_assoc]
      exact if_neg h
    rw [hjoin, join_config, if_neg h, List.append_assoc]
    rfl

/-- The default places are the user's file, where there is a directory for it, and then the one for
all users. -/
theorem defaults_eq (l : Locations) :
    l.defaults = (l.configDirectory.map userFile).toList ++ [systemFile] := by
  rw [defaults]
  simp only [join_join_eq]
  rfl

/-- The file that is consulted, if one is: the one that the command line names, whether it is there
or not, else the one that the environment names, else the user's file if it is there, else the one
for all users if that is there. -/
inductive Consults (l : Locations) (files : Files) : Option Path → Option Path → Prop
  | option (path : Path) : Consults l files (some path) (some path)
  | environment {path : Path} (hnames : l.Names path) : Consults l files none (some path)
  | user {directory : Path} (hunnamed : ∀ path, ¬ l.Names path)
    (hdirectory : l.configDirectory = some directory)
    (hpresent : files.present (userFile directory) = true) :
    Consults l files none (some (userFile directory))
  | system (hunnamed : ∀ path, ¬ l.Names path)
    (habsent : ∀ directory, l.configDirectory = some directory →
      files.present (userFile directory) = false)
    (hpresent : files.present systemFile = true) : Consults l files none (some systemFile)
  | nothing (hunnamed : ∀ path, ¬ l.Names path)
    (habsent : ∀ directory, l.configDirectory = some directory →
      files.present (userFile directory) = false)
    (hmissing : files.present systemFile = false) : Consults l files none none

theorem consults_resolve (l : Locations) (files : Files) (option : Option Path) :
    l.Consults files option (l.resolve files option) := by
  cases option with
  | some path => exact .option path
  | none =>
    rw [resolve]
    cases hnamed : l.named? with
    | some path => exact .environment (named?_eq_some_iff.1 hnamed)
    | none =>
      have hunnamed := named?_eq_none_iff.1 hnamed
      simp only [defaults_eq]
      cases hdirectory : l.configDirectory with
      | none =>
        have habsent : ∀ directory, l.configDirectory = some directory →
            files.present (userFile directory) = false := by simp [hdirectory]
        cases hsystem : files.present systemFile with
        | true => simpa [hsystem] using Consults.system hunnamed habsent hsystem
        | false => simpa [hsystem] using Consults.nothing hunnamed habsent hsystem
      | some directory =>
        cases huser : files.present (userFile directory) with
        | true => simpa [huser] using Consults.user hunnamed hdirectory huser
        | false =>
          have habsent : ∀ directory, l.configDirectory = some directory →
              files.present (userFile directory) = false := by simpa [hdirectory] using huser
          cases hsystem : files.present systemFile with
          | true => simpa [huser, hsystem] using Consults.system hunnamed habsent hsystem
          | false => simpa [huser, hsystem] using Consults.nothing hunnamed habsent hsystem

theorem Consults.eq_resolve {l : Locations} {files : Files} {option path : Option Path}
    (h : l.Consults files option path) : l.resolve files option = path := by
  cases h with
  | option path => rfl
  | environment hnames => rw [resolve, named?_eq_some_iff.2 hnames]
  | user hunnamed hdirectory hpresent =>
    simp [resolve, named?_eq_none_iff.2 hunnamed, defaults_eq, hdirectory, hpresent]
  | system hunnamed habsent hpresent =>
    rw [resolve, named?_eq_none_iff.2 hunnamed, defaults_eq]
    cases hdirectory : l.configDirectory with
    | none => simp [hpresent]
    | some directory => simp [habsent directory hdirectory, hpresent]
  | nothing hunnamed habsent hmissing =>
    rw [resolve, named?_eq_none_iff.2 hunnamed, defaults_eq]
    cases hdirectory : l.configDirectory with
    | none => simp [hmissing]
    | some directory => simp [habsent directory hdirectory, hmissing]

theorem resolve_eq_iff {l : Locations} {files : Files} {option path : Option Path} :
    l.resolve files option = path ↔ l.Consults files option path :=
  ⟨fun h => h ▸ l.consults_resolve files option, Consults.eq_resolve⟩

end Locations

/-! ## The settings that are overlaid -/

namespace Settings

/-- The settings that the command line is overlaid on, and where they come from. A file that is
there has to be readable, to hold settings, and such that the player can run with them. -/
inductive Base (files : Files) : Option Path → Settings → SettingsSource → Prop
  | nothing : Base files none {} .defaults
  | missing {path : Path} (habsent : files.present path = false) :
    Base files (some path) {} (.missing path)
  | file {path : Path} {text : String} {document : Document} {s : Settings}
    (hpresent : files.present path = true) (hread : files.text path = .ok text)
    (hparse : Toml.parse? text = some document) (hdecode : ofDocument .toml document = .ok s)
    (husable : s.Usable) : Base files (some path) s (.file path)

theorem ofText_eq_ok_iff {text : String} {s : Settings} :
    ofText text = .ok s ↔
      ∃ document, Toml.parse? text = some document ∧ ofDocument .toml document = .ok s ∧
        s.Usable := by
  rw [ofText]
  cases Toml.parse? text with
  | none => simp
  | some document =>
    cases hdecode : ofDocument .toml document with
    | error cause => simp [hdecode]
    | ok t =>
      simp only [checked_eq_ok_iff, Option.some.injEq, exists_eq_left', hdecode, Except.ok.injEq]
      exact and_congr_right fun heq => by rw [heq]

theorem load_eq_ok_iff {files : Files} {path : Path} {s : Settings} :
    load files path = .ok s ↔ ∃ text, files.text path = .ok text ∧ ofText text = .ok s := by
  rw [load]
  cases files.text path with
  | error e => simp
  | ok text => cases htext : ofText text <;> simp [htext]

theorem loadOrDefault_eq_ok_iff {files : Files} {path : Option Path} {s : Settings}
    {source : SettingsSource} :
    loadOrDefault files path = .ok (s, source) ↔ Base files path s source := by
  cases path with
  | none =>
    rw [loadOrDefault, Except.ok.injEq, Prod.mk.injEq]
    constructor
    · rintro ⟨rfl, rfl⟩
      exact .nothing
    · rintro ⟨⟩
      exact ⟨rfl, rfl⟩
  | some path =>
    rw [loadOrDefault]
    cases hpresent : files.present path with
    | false =>
      rw [if_neg Bool.false_ne_true, Except.ok.injEq, Prod.mk.injEq]
      constructor
      · rintro ⟨rfl, rfl⟩
        exact .missing hpresent
      · rintro (_ | _ | ⟨hpresent'⟩)
        · exact ⟨rfl, rfl⟩
        · exact absurd (hpresent.symm.trans hpresent') Bool.false_ne_true
    | true =>
      rw [if_pos rfl]
      constructor
      · intro h
        cases hload : load files path with
        | error e => simp [hload, Except.map] at h
        | ok t =>
          obtain ⟨rfl, rfl⟩ : t = s ∧ SettingsSource.file path = source := by
            simpa [hload, Except.map] using h
          obtain ⟨text, hread, htext⟩ := load_eq_ok_iff.1 hload
          obtain ⟨document, hparse, hdecode, husable⟩ := ofText_eq_ok_iff.1 htext
          exact .file hpresent hread hparse hdecode husable
      · rintro (_ | habsent | ⟨_, hread, hparse, hdecode, husable⟩)
        · exact absurd (habsent.symm.trans hpresent) Bool.false_ne_true
        · rw [load_eq_ok_iff.2 ⟨_, hread, ofText_eq_ok_iff.2 ⟨_, hparse, hdecode, husable⟩⟩]
          rfl

/-- The player can run with the defaults. -/
theorem usable_default : ({} : Settings).Usable := by
  refine ⟨by decide, by decide, by decide, fun _ => by decide⟩

theorem Base.usable {files : Files} {path : Option Path} {s : Settings} {source : SettingsSource}
    (h : Base files path s source) : s.Usable := by
  cases h with
  | nothing | missing => exact usable_default
  | file _ _ _ _ husable => exact husable

end Settings

/-! ## What the command line changes -/

/-- What the command line gives takes the place of what was there, and nothing else changes: the
endpoint, the address of the status together with whether it is served, and the backend. -/
structure Overrides.Changes (o : Overrides) (base s : Settings) : Prop where
  endpoint : s.endpoint = o.endpoint.getD base.endpoint
  poll : s.poll = base.poll
  logging : s.logging = base.logging
  enabled : s.status.enabled = (o.statusBind.isSome || base.status.enabled)
  bind : s.status.bind = o.statusBind.getD base.status.bind
  backend : s.widget.backend = if o.dryRun then .dryRun else base.widget.backend
  widget : { s.widget with backend := base.widget.backend } = base.widget

namespace Overrides

theorem changes_apply (o : Overrides) (base : Settings) : o.Changes base (o.apply base) := by
  obtain ⟨endpoint, statusBind, dryRun⟩ := o
  cases statusBind <;> cases dryRun <;> exact ⟨rfl, rfl, rfl, rfl, rfl, rfl, rfl⟩

theorem Changes.eq_apply {o : Overrides} {base s : Settings} (h : o.Changes base s) :
    s = o.apply base := by
  obtain ⟨endpoint, poll, widget, logging, ⟨enabled, bind⟩⟩ := s
  obtain ⟨rfl, rfl, rfl, henabled, hbind, hbackend, hwidget⟩ := h
  have hstatus : (⟨enabled, bind⟩ : StatusSettings) = (o.apply base).status := by
    simp only at henabled hbind
    rw [henabled, hbind, apply]
    cases o.statusBind <;> rfl
  have hsame : widget = (o.apply base).widget := by
    simp only at hbackend
    have hback : widget = { base.widget with backend := widget.backend } := by rw [← hwidget]
    rw [hback, hbackend, apply]
    cases o.dryRun <;> rfl
  rw [hstatus, hsame]
  rfl

theorem changes_iff {o : Overrides} {base s : Settings} : o.Changes base s ↔ o.apply base = s :=
  ⟨fun h => h.eq_apply.symm, fun h => h ▸ o.changes_apply base⟩

/-- After settings that passed the check, a blank endpoint is all that can be wrong. -/
theorem Changes.check_eq {o : Overrides} {base s : Settings} (h : o.Changes base s)
    (hbase : base.Usable) :
    s.check = if o.endpoint.any Text.allBlank then .error .blankEndpoint else .ok () := by
  have hendpoint : Text.allBlank s.endpoint = o.endpoint.any Text.allBlank := by
    rw [h.endpoint]
    cases o.endpoint with
    | none => exact hbase.endpoint
    | some endpoint => rfl
  cases hblank : o.endpoint.any Text.allBlank with
  | true => rw [Settings.check, hendpoint, hblank, if_pos rfl, if_pos rfl]
  | false =>
    rw [if_neg Bool.false_ne_true, Settings.check_eq_ok_iff]
    refine ⟨hendpoint.trans hblank, h.poll ▸ hbase.healthMs, h.poll ▸ hbase.playbackMs, ?_⟩
    -- a player is wanted only if one was wanted before, and then by the same command
    intro hprocess
    have hcommand : s.widget.command = base.widget.command := by rw [← h.widget]
    rw [hcommand]
    refine hbase.command ?_
    rw [h.backend] at hprocess
    cases hdry : o.dryRun with
    | true => simp [hdry] at hprocess
    | false => simpa [hdry] using hprocess

end Overrides

/-! ## The start -/

namespace Settings

theorem atStartup_eq_ok_iff {l : Locations} {files : Files} {option : Option Path}
    {o : Overrides} {s : Settings} {source : SettingsSource} :
    atStartup l files option o = .ok (s, source) ↔
      ∃ base, Base files (l.resolve files option) base source ∧ o.apply base = s ∧
        s.check = .ok () := by
  rw [atStartup]
  constructor
  · intro h
    split at h
    · cases h
    · rename_i base source' hload
      split at h
      · cases h
      · rename_i t hchecked
        obtain ⟨rfl, husable⟩ := checked_eq_ok_iff.1 hchecked
        obtain ⟨rfl, rfl⟩ : o.apply base = s ∧ source' = source := by simpa using h
        exact ⟨base, loadOrDefault_eq_ok_iff.1 hload, rfl, check_eq_ok_iff.2 husable⟩
  · rintro ⟨base, hbase, rfl, hcheck⟩
    simp only [loadOrDefault_eq_ok_iff.2 hbase,
      checked_eq_ok_iff.2 ⟨rfl, check_eq_ok_iff.1 hcheck⟩]

/-- The program runs only with settings that the player can run with. -/
theorem usable_of_launch {environment : CommandLine.Environment} {files : Files}
    {listen : String → Except Host.BindError Unit} {arguments : List String}
    {r : CommandLine.Running}
    (h : CommandLine.launch environment files listen arguments = .running r) :
    r.settings.Usable := by
  rw [CommandLine.launch] at h
  split at h
  · rename_i stop _
    cases stop <;> cases h
  · split at h
    · cases h
    · rename_i settings source hstart
      cases h
      exact usable_of_atStartup_eq_ok hstart

/-- For every command line, environment and file system. The file that is consulted is the one that
the command line names, else the one that the environment names, else the first default place where
there is one. The player starts exactly if that file gives settings and these, with what the command
line changes, pass the check; after settings that passed it in the file, the check fails only for a
blank endpoint on the command line. Whatever the player starts with has an endpoint, a command
unless nothing is played, and a period for both timers, and so it is wherever the program runs. -/
theorem startup_decided (l : Locations) (files : Files) (option : Option Path) (o : Overrides) :
    (∀ path, l.resolve files option = path ↔ l.Consults files option path) ∧
      (∀ s source, atStartup l files option o = .ok (s, source) ↔
        ∃ path base, l.Consults files option path ∧ Base files path base source ∧
          o.Changes base s ∧ s.check = .ok ()) ∧
      (∀ path base source s, Base files path base source → o.Changes base s →
        s.check = if o.endpoint.any Text.allBlank then .error .blankEndpoint else .ok ()) ∧
      (∀ s source, atStartup l files option o = .ok (s, source) →
        Text.allBlank s.endpoint = false ∧ 0 < s.poll.healthMs ∧ 0 < s.poll.playbackMs ∧
          (s.widget.backend = .dryRun ∨ Text.allBlank s.widget.command = false)) ∧
      ∀ environment listen arguments r,
        CommandLine.launch environment files listen arguments = .running r →
          0 < (Timers.start r.settings.poll).health.period ∧
            0 < (Timers.start r.settings.poll).playback.period := by
  refine ⟨fun path => Locations.resolve_eq_iff, ?_, ?_, ?_, ?_⟩
  · intro s source
    rw [atStartup_eq_ok_iff]
    constructor
    · rintro ⟨base, hbase, happly, hcheck⟩
      exact ⟨_, base, l.consults_resolve files option, hbase, Overrides.changes_iff.2 happly,
        hcheck⟩
    · rintro ⟨path, base, hconsults, hbase, hchanges, hcheck⟩
      rw [hconsults.eq_resolve]
      exact ⟨base, hbase, Overrides.changes_iff.1 hchanges, hcheck⟩
  · intro path base source s hbase hchanges
    exact hchanges.check_eq hbase.usable
  · intro s source h
    have husable := usable_of_atStartup_eq_ok h
    refine ⟨husable.endpoint, husable.healthMs, husable.playbackMs, ?_⟩
    cases hbackend : s.widget.backend with
    | dryRun => exact .inl rfl
    | process => exact .inr (husable.command hbackend)
  · intro environment listen arguments r h
    have husable := usable_of_launch h
    exact ⟨UInt64.lt_iff_toNat_lt.1 husable.healthMs, UInt64.lt_iff_toNat_lt.1 husable.playbackMs⟩

/-- Settings that name no player to speak of and ask for none, as a text and as the one file. -/
def dryText : String := "[widget]\nbackend = \"dry-run\"\ncommand = \" \"\n"

/-- The path of the one file. -/
def dryPath : Path := ⟨[0x2f, 0x73]⟩

def dryFiles : Files := Files.ofSeen [(dryPath, .ok (Text.bytesOf dryText))]

/-- The environment names the file, which passes since it asks for no player; the command line gives
the address of the status. -/
theorem startup_from_environment :
    let l : Locations := { settingsFile := some dryPath.bytes }
    let o : Overrides := { statusBind := some "0.0.0.0:80" }
    let s : Settings :=
      { widget := { backend := .dryRun, command := " " }
        status := { enabled := true, bind := "0.0.0.0:80" } }
    l.resolve dryFiles none = some dryPath ∧
      atStartup l dryFiles none o = .ok (s, .file dryPath) ∧ s.check = .ok () := by
  have hpath : Text.ofBytes? dryPath.bytes = some "/s" := by cbv
  have hpresent : dryFiles.present dryPath = true := by cbv
  have hread : dryFiles.text dryPath = .ok dryText := by cbv
  have hparse : Toml.parse? dryText = some (.table [("widget",
      .table [("backend", .string "dry-run"), ("command", .string " ")])]) := by cbv
  intro l o s
  have hconsults : l.Consults dryFiles none (some dryPath) :=
    .environment ⟨rfl, "/s", hpath, by decide⟩
  have hbase : Base dryFiles (some dryPath) { widget := { backend := .dryRun, command := " " } }
      (.file dryPath) :=
    .file hpresent hread hparse rfl ⟨by decide, by decide, by decide, by simp⟩
  have hchanges : o.Changes { widget := { backend := .dryRun, command := " " } } s :=
    ⟨rfl, rfl, rfl, rfl, rfl, rfl, rfl⟩
  obtain ⟨hresolves, hstarts, hchecks, -⟩ := startup_decided l dryFiles none o
  have hcheck : s.check = .ok () := hchecks _ _ _ _ hbase hchanges
  exact ⟨(hresolves _).2 hconsults,
    (hstarts _ _).2 ⟨_, _, hconsults, hbase, hchanges, hcheck⟩, hcheck⟩

end Settings

end Jukebox

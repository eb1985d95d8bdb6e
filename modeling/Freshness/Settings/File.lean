import Freshness.Settings.Document
import Freshness.Settings.Environment

/-!
# Settings in a file

* `Content`, `Site` : what stands at the path of a file;
* `defaultPath` : where the file is looked for if no path is given;
* `Settings.load` : the settings of a file with the environment applied, if they are accepted. The
  defaults stand in for a file that is missing;
* `Settings.loadOrDefault` : the same, but the defaults if that fails;
* `Settings.save` : writes a file in place of any other, or leaves everything as it is.
-/

namespace Freshness

inductive Content where
  | nothing
  | folder
  | text (s : String)
  /-- Bytes that are not the UTF-8 form of any text. -/
  | bytes
deriving DecidableEq, Repr

def Content.ofBytes (b : ByteArray) : Content :=
  match String.fromUTF8? b with
  | some s => .text s
  | none => .bytes

structure Site where
  /-- A file stands where a folder on the way to the path would have to be. -/
  blocked : Bool := false
  content : Content := .nothing
deriving DecidableEq, Repr

/-- The path of the file in a home folder; the folder for settings counts if it is absolute. -/
def defaultPath (home : String) (settingsFolder : Option String) : String :=
  let folder := match settingsFolder with
    | some f => if f.startsWith "/" then f else home ++ "/.config"
    | none => home ++ "/.config"
  folder ++ "/cadence/cadence.toml"

namespace Settings

/-! ## Loading -/

/-- Settings that were asked for, and what is logged. -/
structure Loaded where
  outcome : Except Refusal Settings
  notices : List Notice

def read (site : Site) : Loaded :=
  if site.blocked then ⟨.ok {}, [.settingsMissing]⟩
  else
    match site.content with
    | .nothing => ⟨.ok {}, [.settingsMissing]⟩
    | .folder => ⟨.error (.loadFailed "the path leads to a folder"), [.settingsLoading]⟩
    | .bytes => ⟨.error (.loadFailed "the file is not UTF-8"), [.settingsLoading]⟩
    | .text t =>
      match parse? t with
      | some s => ⟨.ok s, [.settingsLoading]⟩
      | none => ⟨.error (.loadFailed "the file holds no settings"), [.settingsLoading]⟩

def checked (s : Settings) : Except Refusal Settings :=
  match s.refusal? with
  | some r => .error r
  | none => .ok s

def load (site : Site) (env : Environment) : Loaded :=
  let found := read site
  match found.outcome with
  | .error r => ⟨.error r, found.notices⟩
  | .ok s =>
    let (s, notices) := s.overridden env
    ⟨s.checked, found.notices ++ notices⟩

/-- The settings of a site with the environment applied, or the defaults, and what is logged. -/
def loadOrDefault (site : Site) (env : Environment) : Settings × List Notice :=
  let loaded := load site env
  match loaded.outcome with
  | .ok s => (s, loaded.notices)
  | .error r => ({}, loaded.notices ++ [.settingsRefused r])

/-! ## Saving -/

structure Saved where
  outcome : Except Refusal Unit
  site : Site
  notices : List Notice

def save (s : Settings) (site : Site) : Saved :=
  let failed (detail : String) : Saved := ⟨.error (.saveFailed detail), site, []⟩
  if site.blocked then failed "a file is in the way of a folder"
  else
    match s.render? with
    | none => failed "a number is out of range"
    | some t =>
      if site.content = .folder then failed "the path leads to a folder"
      else ⟨.ok (), { site with content := .text t }, [.settingsSaved]⟩

end Settings

end Freshness

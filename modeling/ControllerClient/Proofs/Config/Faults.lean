import ControllerClient.Proofs.Failure
import ControllerClient.Workspace

/-!
Failures of files, settings and routes. Whatever goes wrong with them, it is never that a file
has no controller.
-/

namespace ControllerClient

open Failure (noControllerFound)

variable {disk : Disk}

theorem Disk.avoids_checkName (path : Path) : Avoids noControllerFound (checkName path) := by
  intro file
  unfold checkName nameFault? Text.fileName Text.encodable
  split
  · next failure fault =>
      split at fault
      · next other unwritable =>
          cases fault
          split at unwritable
          · cases unwritable
          · cases unwritable
            simp
      · split at fault
        · cases fault
          simp
        · cases fault
  · simp

theorem Disk.avoids_checkParts (root : Root) (walked parts : List Text) :
    Avoids noControllerFound (disk.checkParts root walked parts) := by
  induction parts generalizing walked with
  | nil => exact .ok ()
  | cons part later ih =>
      rw [checkParts]
      exact (avoids_checkName _).bind fun _ => ih (walked ++ [part])

theorem Disk.avoids_resolve (path : Path) : Avoids noControllerFound (disk.resolve path) := by
  unfold resolve
  dsimp only
  split
  · apply (avoids_checkParts _ _ _).bind
    intro _ file
    split <;> simp
  · intro file
    split <;> simp

theorem Disk.avoids_readText (path : Path) : Avoids noControllerFound (disk.readText path) := by
  have octets : Avoids noControllerFound (disk.read path) := by
    apply (avoids_checkName path).bind
    intro _ file
    split
    · simp
    · split <;> simp
  apply octets.bind
  intro octets file
  split <;> simp

theorem Json.avoids_read (document : Text) : Avoids noControllerFound (Json.read document) := by
  intro file
  unfold Json.read Json.readDocument
  split
  · simp
  · dsimp only
    split
    · next stop _ => cases stop <;> simp
    · split <;> simp

namespace Config

theorem avoids_continued (directory : Path) (setting : Value) :
    Avoids noControllerFound (continued directory setting) := by
  intro file
  cases setting <;> simp [continued]

theorem avoids_readEntries (file : Path) : Avoids noControllerFound (readEntries disk file) := by
  apply (Disk.avoids_readText file).bind
  intro text
  apply (Json.avoids_read text).bind
  intro value cause
  split <;> simp

theorem avoids_find (directory : Option Path) : Avoids noControllerFound (find disk directory) := by
  apply (Disk.avoids_resolve _).bind
  intro directory cause
  split <;> simp

theorem avoids_findProjectRoot (directory : Option Path) :
    Avoids noControllerFound (findProjectRoot disk directory) := by
  apply (avoids_find directory).bind
  intro file
  apply (avoids_readEntries file).bind
  intro entries
  dsimp only
  split
  · exact (avoids_continued _ _).bind fun _ => Disk.avoids_resolve _
  · exact .ok _

theorem avoids_read (projectRoot : Path) : Avoids noControllerFound (read disk projectRoot) := by
  unfold read
  dsimp only
  split
  · exact (avoids_readEntries _).bind fun _ => .ok _
  · intro cause
    simp

theorem avoids_load (kept : Kept) (directory : Option Path) :
    Avoids noControllerFound (load disk kept directory) := by
  apply (avoids_findProjectRoot directory).bind
  intro projectRoot
  split
  · exact .ok _
  · exact (avoids_read projectRoot).bind fun _ => .ok _

theorem avoids_routeRoot (config : Config) (variant : Value) :
    Avoids noControllerFound (config.routeRoot disk variant) := by
  unfold routeRoot
  split
  · split
    · exact (avoids_continued _ _).bind fun _ => Disk.avoids_resolve _
    · split
      · exact (avoids_continued _ _).bind fun _ => Disk.avoids_resolve _
      · intro cause
        simp
  · apply Avoids.bind
    · intro cause
      unfold Value.limited
      split <;> simp
    · intro value cause
      simp

end Config

theorem Route.avoids_ofFile (config : Config) (variant : Value) (file : Path) :
    Avoids noControllerFound (ofFile disk config variant file) := by
  have constructor (stem : Text) (suffix : Value) :
      Avoids noControllerFound (constructorName stem suffix) := by
    intro cause
    unfold constructorName
    split
    · split <;> simp
    · simp
  apply (Config.avoids_routeRoot config variant).bind
  intro root
  apply (Disk.avoids_resolve file).bind
  intro file
  exact (constructor _ _).bind fun _ => .ok _

namespace Workspace

theorem avoids_configOr (workspace : Workspace) (config : Option Config) :
    Avoids noControllerFound (workspace.configOr config).2 := by
  cases config with
  | some config => exact .ok config
  | none =>
      have loads : Avoids noControllerFound (Config.load workspace.disk workspace.kept none) :=
        Config.avoids_load workspace.kept none
      change Avoids noControllerFound (workspace.loadConfig none).2
      unfold loadConfig
      cases found : Config.load workspace.disk workspace.kept none with
      | ok pair => exact .ok pair.1
      | error failure =>
          rw [found] at loads
          exact loads.error

theorem avoids_prefixOf (workspace : Workspace) (controller : Controller) (file : Text)
    (config : Option Config) :
    Avoids noControllerFound (workspace.prefixOf controller file config).2 := by
  unfold prefixOf
  split
  · exact .ok _
  · exact (avoids_configOr workspace config).bind fun config => Route.avoids_ofFile config _ _

end Workspace

end ControllerClient

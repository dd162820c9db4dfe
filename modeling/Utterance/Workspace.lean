import Utterance.Act
import Utterance.File
import Utterance.Provider.Settings
import Utterance.Semantic.Store

/-!
Workspaces: what is kept from one run to the next.
-/

namespace Utterance

structure Workspace where
  settings : File := .missing
  /-- The exemplars. -/
  learned : File := .missing
  /-- The database of the classifier, once it was opened. -/
  database : Option Shelf := none

namespace Workspace

def settingsPath : String :=
  Settings.directory ++ "/" ++ Settings.fileName

def learnedPath : String :=
  Settings.directory ++ "/mangle/learned_taxonomy.mg"

def learnedPart : Part Workspace File :=
  ⟨learned, fun f w => { w with learned := f }⟩

/-- The database, which is there from when it is opened. -/
def databasePart : Part Workspace Shelf :=
  ⟨fun w => w.database.getD {}, fun s w => { w with database := some s }⟩

variable {W : Type}

def loadSettings (place : Part W Workspace) : Act W (Option Settings) := do
  Act.ofOutcome (Settings.load (← place.value).settings)

def openDatabase (place : Part W Workspace) : Act W (Store W) := do
  let database := place.comp databasePart
  database.change id
  pure (Shelf.database database)

end Workspace

end Utterance

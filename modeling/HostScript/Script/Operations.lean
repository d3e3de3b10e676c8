import HostScript.Fault
import HostScript.Script

/-!
# The operations of the host

One function for each operation that a script can call, with its arguments in the order in which the
host takes them. A callback without a name is the only thing that is refused.
-/
namespace HostScript

/-- The frame of callbacks for which none is given. -/
def mainFrame : String := "main_frame"

namespace Script

/-- Makes a field of a dialog the active one. -/
def activate (s : Script) (dialog field : String) : Script :=
  s.call "Activate" [.text dialog, .text field]

/-- Invokes a callback on a frame. -/
def callbackIn (s : Script) (name parameter frame : String) : Script :=
  s.call "Callback" [.text name, .text parameter, .text frame]

/-- Invokes a callback with a parameter on the main frame. -/
def callbackWith (s : Script) (name parameter : String) : Script :=
  s.callbackIn name parameter mainFrame

/-- Invokes a callback without a parameter on the main frame. The name must not be empty. -/
def callback (s : Script) (name : String) : Except Fault Script :=
  if name.isEmpty then .error .emptyCallback else .ok (s.callbackWith name "")

/-- Checks a field with 1 and clears it with 0. -/
def checkValue (s : Script) (name : String) (value : Int64) : Script :=
  s.call "CheckValue" [.text name, .number value]

/-- Starts a command. -/
def commandStart (s : Script) (command parameter frame : String) : Script :=
  s.call "CommandStart" [.text command, .text parameter, .text frame]

/-- Ends the command that was started. -/
def commandEnd (s : Script) : Script := s.call "CommandEnd" []

/-- Chooses files in the file dialog. -/
def fileSelection (s : Script) (items : List String) : Script :=
  s.call "FileSelection" (items.map .text)

/-- Chooses items of a list. -/
def listSelect (s : Script) (dialog field : String) (items : List String) : Script :=
  s.select "ListSelect" dialog field (items.map .text)

/-- Answers a modal dialog with a code. -/
def modalDialog (s : Script) (value : Int64) : Script := s.call "ModalDialog" [.number value]

/-- Presses a mouse button. -/
def mouseDown (s : Script) (frame subframe : String) (x y modifier : Int64) : Script :=
  s.call "MouseDown" [.text frame, .text subframe, .number x, .number y, .number modifier]

/-- Releases a mouse button. -/
def mouseUp (s : Script) (frame subframe : String) (x y modifier : Int64) : Script :=
  s.call "MouseUp" [.text frame, .text subframe, .number x, .number y, .number modifier]

/-- Presses a button of a dialog. -/
def pushButton (s : Script) (button frame : String) : Script :=
  s.call "PushButton" [.text button, .text frame]

/-- Turns to a page of a dialog. -/
def tabChange (s : Script) (dialog field item : String) : Script :=
  s.call "TabChange" [.text dialog, .text field, .text item]

/-- Chooses rows of a table by their numbers. -/
def tableSelect (s : Script) (dialog field : String) (items : List Int64) : Script :=
  s.select "TableSelect" dialog field (items.map .number)

/-- Chooses a row of a tree. -/
def treeSelect (s : Script) (dialog field row : String) : Script :=
  s.call "TreeSelect" [.text dialog, .text field, .text row]

/-- Fills a field. -/
def valueChange (s : Script) (dialog field data : String) : Script :=
  s.call "ValueChange" [.text dialog, .text field, .text data]

end Script

end HostScript

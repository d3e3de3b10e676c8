import HostScript.Drawing
import HostScript.Script.Operations

/-!
# Ready-made tasks

Scripts for common work with the host. The names of dialogs, fields and buttons are the host's own.
-/
namespace HostScript

inductive Task where
  | performNumbering (all : Bool)
  | openNumberingSettings
  | openDrawingList
  | openDrawingProperties (kind : Drawing) (name : String)
  | openAutoDrawingScript (name : String)
  | createGaDrawing (template : String)
  deriving DecidableEq

namespace Task

/-- The script with one callback that has no parameter. -/
def callbackOnly (name : String) : Script := Script.empty.callbackIn name "" mainFrame

def script : Task → Script
  | .performNumbering true => callbackOnly "acmd_partnumbers_all"
  | .performNumbering false => callbackOnly "acmd_partnumbers_selected"
  | .openNumberingSettings => callbackOnly "acmd_display_partnumbers_set_options"
  | .openDrawingList => callbackOnly "gdr_menu_select_active_draw"
  | .openDrawingProperties kind name =>
    let stem := kind.dialogStem
    let dialog := stem ++ "_dial"
    ((Script.empty.callbackIn "acmd_display_attr_dialog" dialog mainFrame).valueChange
      dialog ("gr_" ++ stem ++ "_get_menu") name).pushButton ("gr_" ++ stem ++ "_get") dialog
  | .openAutoDrawingScript name =>
    (((callbackOnly "acmd_create_drawings_auto").listSelect
      "dia_auto_drawings" "auto_drawings_list" [name]).pushButton
      "Pushbutton_133" "dia_auto_drawings")
  | .createGaDrawing template =>
    ((((callbackOnly "acmd_create_dim_general_assembly_drawing").pushButton
      "Pushbutton" "Create GA-drawing").valueChange
      "gdraw_dial" "gr_gdraw_get_menu" template).pushButton
      "gr_gdraw_get" "gdraw_dial").pushButton "gr_gdraw_ok" "gdraw_dial"

/-- The name under which a task is reported. -/
def label : Task → String
  | .performNumbering _ => "perform_numbering"
  | .openNumberingSettings => "open_numbering_settings"
  | .openDrawingList => "open_drawing_list"
  | .openDrawingProperties _ _ => "open_drawing_properties"
  | .openAutoDrawingScript _ => "open_auto_drawing_script"
  | .createGaDrawing _ => "create_ga_drawing_from_template"

end Task

end HostScript

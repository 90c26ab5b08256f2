import DecodeSession.Device.Scripted
import DecodeSession.Registry.Basic

/-! Platforms whose devices have scripts in front of them. -/
namespace DecodeSession

/-- A setting of a device with scripts in front of it. -/
inductive ScriptedSetting (δ : Type) where
  | script (m : Method) (entries : List (ScriptEntry m))
  | device (setting : δ)

/-- A platform with scripts in front of every device. -/
def Platform.scripted {σ δ : Type} (p : Platform σ δ) :
    Platform (Scripted σ) (ScriptedSetting δ) where
  driver := p.driver.scripted
  fresh := ⟨p.fresh, .empty⟩
  adjust
    | .script m entries, s => .ok {s with scripts := s.scripts.append m entries}
    | .device setting, s => do return {s with device := ← p.adjust setting s.device}
  handleText := p.handleText

end DecodeSession

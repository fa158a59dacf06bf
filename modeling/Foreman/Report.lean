import Foreman.Config.Environment
import Foreman.Task.Error

set_option autoImplicit false

namespace Foreman

class Report (ε : Type) where
  kind : ε → String
  message : ε → String

instance : Report TriggerError := ⟨TriggerError.kind, TriggerError.message⟩

instance : Report ResolutionError := ⟨ResolutionError.kind, ResolutionError.message⟩

instance : Report StoreError := ⟨StoreError.kind, StoreError.message⟩

instance : Report TaskError := ⟨TaskError.kind, TaskError.message⟩

instance : Report SchedulerError := ⟨SchedulerError.kind, SchedulerError.message⟩

instance : Report EnvironmentError := ⟨EnvironmentError.kind, EnvironmentError.message⟩

end Foreman

import Inspection.Descriptor.Json

/-! A written descriptor has a key for each count that is known and no other. -/

namespace Inspection.Descriptor

end Inspection.Descriptor

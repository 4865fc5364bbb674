import ImxDmaBuffer.FailedMap
import ImxDmaBuffer.ReferenceCounting
import ImxDmaBuffer.MapFlagMeaning
import ImxDmaBuffer.Teardown
import ImxDmaBuffer.SyncSessions
import ImxDmaBuffer.AddressViews
import ImxDmaBuffer.ErrorReporting
import ImxDmaBuffer.ResourceOwnership
import ImxDmaBuffer.Library.TraceErasure
import ImxDmaBuffer.UncachedHeaps
import ImxDmaBuffer.HeapAutodetection
import ImxDmaBuffer.OpenedDevices
import ImxDmaBuffer.AcceptedValues
import ImxDmaBuffer.BufferLives
import ImxDmaBuffer.SeparateOwners
import ImxDmaBuffer.DefaultAllocator
import ImxDmaBuffer.Library.LedgerTriples
import ImxDmaBuffer.TestProgram
import ImxDmaBuffer.CacheCoherence
import ImxDmaBuffer.Library.LedgerUses
import ImxDmaBuffer.UsedResources
import ImxDmaBuffer.DeviceWindows
import ImxDmaBuffer.WrappedBuffers
import ImxDmaBuffer.InterchangeableBackEnds
import ImxDmaBuffer.UndefinedBehaviour
import ImxDmaBuffer.Library.OnceCell
import ImxDmaBuffer.OneHeapMask
import ImxDmaBuffer.ClientPointers

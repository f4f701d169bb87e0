import Sysm.Lib.LinkedHeap
import Sysm.Cache
import Sysm.CacheRepr
import Sysm.CacheOps
import Sysm.CacheMap
import Sysm.CacheRuns
import Sysm.Lib.Binary64
import Sysm.Lib.CString
import Sysm.Lib.CNumbers
import Sysm.ProcStat
import Sysm.CpuRollup
import Sysm.ProcCpu
import Sysm.ProcState
import Sysm.ProcCalls
import Sysm.ProcFresh
import Sysm.StatLine
import Sysm.StatColumns
import Sysm.CacheSweep
import Sysm.CacheHas
import Sysm.ProcCpuStep
import Sysm.ProcCpuRate
import Sysm.ProcCpuIsolation
import Sysm.NetTable
import Sysm.NetRows
import Sysm.Lib.OnePass
import Sysm.NetStat
import Sysm.NetListens
import Sysm.NetStatRuns
import Sysm.CpuList
import Sysm.CpuInfo
import Sysm.CpuFolding
import Sysm.StatName
import Sysm.CpuPerc
import Sysm.Memory
import Sysm.ProcList
import Sysm.ReferenceMap
import Sysm.ReferenceMapRuns
import Sysm.ProxyCache
import Sysm.ProxyCacheRuns
import Sysm.CpuPairing
import Sysm.CacheExpiry
import Sysm.NetListenAddress
import Sysm.NetListenRuns
import Sysm.Lib.Scanf
import Sysm.NetRoute
import Sysm.NetRouteRows
import Sysm.ProcEnv
import Sysm.ProcEnvQueries
import Sysm.CacheValues
import Sysm.Iodev
import Sysm.IodevRuns
import Sysm.State
import Sysm.Lib.GrowList
import Sysm.ProcEffect
import Sysm.Lib.Machine
import Sysm.Lib.Shares
import Sysm.Lib.ByteBuffer
import Sysm.FileBuffer
import Sysm.BootTime
import Sysm.ProcCounts
import Sysm.DiskStats
import Sysm.WholeDisk
import Sysm.IostatSys
import Sysm.DiskUsage
import Sysm.DiskUsageRuns
import Sysm.Lib.Fscanf
import Sysm.NetInet6
import Sysm.NetStatPort
import Sysm.NetLines
import Sysm.NetConnection
import Sysm.CacheCleanup
import Sysm.Meminfo
import Sysm.MemoryAccounts
import Sysm.ProcCpuRepeat
import Sysm.ProcArgs
import Sysm.NetParsedRows
import Sysm.NetConservation
import Sysm.Lib.Groups
import Sysm.CpuSums
import Sysm.CpuInfoFields
import Sysm.CpuInfoFrame
import Sysm.CpuInfoFolding
import Sysm.ProcPort
import Sysm.Lib.FoldOption
import Sysm.ProcEnvScan
import Sysm.ThreadTest
import Sysm.NetDev
import Sysm.InterfaceList
import Sysm.InterfaceRuns
import Sysm.InterfaceConfig
import Sysm.InterfacePrimary
import Sysm.NetInfo
import Sysm.Lib.StructArray
import Sysm.FileSystem
import Sysm.Who
import Sysm.PidPath
import Sysm.Lib.JavaString
import Sysm.Finder
import Sysm.JarFinder
import Sysm.LibFinder
import Sysm.Lib.HeapList
import Sysm.GrowFills
import Sysm.GrowLists
import Sysm.GrowStructs
import Sysm.CacheDestroy
import Sysm.CacheLeaks
import Sysm.Lib.HeapContents
import Sysm.CacheLedger
import Sysm.Lib.Components
import Sysm.SysmParts
import Sysm.SysmCalls
import Sysm.CacheHistory
import Sysm.SysmTables
import Sysm.SysmClose
import Sysm.Lib.Ownership
import Sysm.Jni
import Sysm.Lib.Simulation
import Sysm.JniHandles
import Sysm.JniRefinement
import Sysm.SysmJava
import Sysm.SysmService
import Sysm.JniBlocks
import Sysm.JavaGivesBack
import Sysm.NetQueries
import Sysm.ArchLoader
import Sysm.LoaderNames
import Sysm.LoaderRuns
import Sysm.LoaderJar
import Sysm.Lib.ExpiringMap
import Sysm.ReferenceMapValues
import Sysm.ProxyCacheRefinement
import Sysm.UnsetMembers
import Sysm.StatFile

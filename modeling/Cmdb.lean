import Cmdb.CString
import Cmdb.DottedQuad
import Cmdb.Prog
import Cmdb.SerialLog
import Cmdb.Ailsa
import Cmdb.NetRange
import Cmdb.InAddr
import Cmdb.Records
import Cmdb.ReverseRebuild
import Cmdb.ZoneDb
import Cmdb.ZoneFile
import Cmdb.ZoneOps
import Cmdb.ZoneView
import Cmdb.ZoneCommits
import Cmdb.ZoneSteps
import Cmdb.RevFiles
import Cmdb.ZoneCommands
import Cmdb.SerialDiscipline
import Cmdb.IntervalTable
import Cmdb.RevZones
import Cmdb.BuildDb
import Cmdb.BuildDomains
import Cmdb.FirstHit
import Cmdb.BuildIp
import Cmdb.BuildIpSearch
import Cmdb.CreateBuild
import Cmdb.BuildOutcome
import Cmdb.Classes
import Cmdb.FwdRecords
import Cmdb.RebuildFlag
import Cmdb.FwdFile
import Cmdb.StanzaFile
import Cmdb.ZoneConfig
import Cmdb.FwdConfig
import Cmdb.RevConfig
import Cmdb.RevHistory
import Cmdb.CommitAll
import Cmdb.ServedZones
import Cmdb.CommitFailures
import Cmdb.AddForward
import Cmdb.ZoneNames
import Cmdb.History
import Cmdb.RecordNames
import Cmdb.PreferredA
import Cmdb.SqlBackends
import Cmdb.RemoveOs
import Cmdb.Statements
import Cmdb.CommLine
import Cmdb.CustomerDb
import Cmdb.NamedOnly
import Cmdb.PointedTable
import Cmdb.Locales
import Cmdb.Defaults
import Cmdb.VarientNames
import Cmdb.Inventory
import Cmdb.VmRegister
import Cmdb.DoublyLinked
import Cmdb.AilList
import Cmdb.ListSequence
import Cmdb.AilHash
import Cmdb.HashTable
import Cmdb.SearchPatterns
import Cmdb.CBuffer
import Cmdb.MultiStatements
import Cmdb.ZoneHeaders
import Cmdb.DnsaOptions
import Cmdb.SrvOwners
import Cmdb.TrimRecords
import Cmdb.DataLists
import Cmdb.ModifyBuild
import Cmdb.ListsApart
import Cmdb.BuildOptions
import Cmdb.MysqlRows
import Cmdb.InetWords
import Cmdb.Mknet
import Cmdb.FirstFree
import Cmdb.DhcpNetworks
import Cmdb.Expansion
import Cmdb.PackageArgs
import Cmdb.Runs
import Cmdb.SystemScripts
import Cmdb.ScriptArgs
import Cmdb.ScriptDisplay
import Cmdb.Ere
import Cmdb.Validation
import Cmdb.DomainNames
import Cmdb.MacAddresses
import Cmdb.GlueAddresses
import Cmdb.AddressRecords
import Cmdb.Getopt
import Cmdb.NetworkArgs
import Cmdb.OptionChecks
import Cmdb.Sql
import Cmdb.OsPackages
import Cmdb.PackageRemoval
import Cmdb.VarientDisplay
import Cmdb.PackageInserts
import Cmdb.PackageAdds
import Cmdb.OsProfiles
import Cmdb.OsDetails
import Cmdb.OsServers
import Cmdb.BootFiles
import Cmdb.LinePieces
import Cmdb.ConfigFile
import Cmdb.PartitionSchemes
import Cmdb.AilsaString
import Cmdb.StoragePool
import Cmdb.PopElement
import Cmdb.CloneElement
import Cmdb.Words
import Cmdb.Debconf
import Cmdb.Recipe
import Cmdb.Kickstart
import Cmdb.BuildDisks
import Cmdb.PreseedFile
import Cmdb.KickstartFile
import Cmdb.BootConfig
import Cmdb.Blocks
import Cmdb.DhcpFiles
import Cmdb.WriteLog
import Cmdb.InstallerFiles
